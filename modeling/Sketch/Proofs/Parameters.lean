import Sketch.Canvas.Recording
import Sketch.Proofs.Reachable

/-! Parameters do not outlive their call. A call overwrites the variables that are named like its
parameters and puts them back when it is over, whatever its lines did to them, called from inside or
stopped at; every other variable stays as the lines left it. -/
namespace Sketch

namespace Variables
variable {vars : Variables} {name other : String}

theorem contains_iff_mem_names : vars.contains name ↔ name ∈ vars.names := by
  unfold contains get? names
  induction vars.entries with
  | nil => simp [valueIn]
  | cons entry rest ih =>
    by_cases same : entry.1 = name
    · simp [valueIn, same]
    · simp only [valueIn, same, if_false, List.map_cons, List.mem_cons, ih]
      simp [Ne.symm same]

theorem mem_names_put {value : Float} : other ∈ (vars.put name value).names ↔ other = name ∨ other ∈ vars.names := by
  simp only [← contains_iff_mem_names, contains, get?_put]
  by_cases same : other = name <;> simp [same]

theorem mem_names_erase : other ∈ (vars.erase name).names ↔ other ≠ name ∧ other ∈ vars.names := by
  simp only [← contains_iff_mem_names, contains, get?_erase]
  by_cases same : other = name <;> simp [same]

theorem mem_names_put_all (pairs : List (String × Float)) (vars : Variables) :
    other ∈ (pairs.foldl (fun vars pair => vars.put pair.1 pair.2) vars).names ↔
      other ∈ pairs.map (·.1) ∨ other ∈ vars.names := by
  induction pairs generalizing vars with
  | nil => simp
  | cons pair pairs ih =>
    rw [List.foldl_cons, ih, mem_names_put, List.map_cons, List.mem_cons]
    tauto

theorem mem_names_ofPairs {pairs : List (String × Float)} :
    other ∈ (ofPairs pairs).names ↔ other ∈ pairs.map (·.1) := by
  rw [ofPairs, mem_names_put_all]
  simp [names]

@[simp] theorem restore_hidden (value : Float) (hidden : Hidden) :
    vars.restore ((name, some value) :: hidden) = (vars.put name value).restore hidden :=
  rfl

@[simp] theorem restore_free (hidden : Hidden) :
    vars.restore ((name, none) :: hidden) = (vars.erase name).restore hidden :=
  rfl

theorem get?_restore (hidden : List String) (old : String → Option Float) (vars : Variables) (key : String) :
    (vars.restore (hidden.map fun name => (name, old name))).get? key =
      if key ∈ hidden then old key else vars.get? key := by
  induction hidden generalizing vars with
  | nil => simp [restore]
  | cons name hidden ih =>
    rw [List.map_cons]
    -- A name that is hidden twice gets its value at the last place.
    by_cases later : key ∈ hidden
    · cases old name <;> simp [ih, later]
    · by_cases same : key = name
      · subst key
        cases old name <;> simp [ih, later, get?_put, get?_erase]
      · cases old name <;> simp [ih, later, same, get?_put, get?_erase]

end Variables

namespace Scope
variable {scope : Scope} {name : String} {method : Method} {args : List Float}

theorem enter_ok_bindings {entered : Entered} (begun : scope.enter name args = .ok entered) :
    entered.hidden = scope.vars.hide (.ofPairs (entered.method.params.zip args)) ∧
      entered.scope.vars = scope.vars.bind (.ofPairs (entered.method.params.zip args)) := by
  unfold enter at begun
  obtain ⟨method, -, rest⟩ := except_bind_ok begun
  split at rest
  · cases rest
  · split at rest
    · cases rest
    · cases rest
      exact ⟨rfl, rfl⟩

theorem enter_begins (found : scope.method? name = some method) (arity : args.length = method.params.length)
    (idle : name ∉ scope.active) : ∃ entered, scope.enter name args = .ok entered := by
  have looked : scope.lookup name = .ok method := by simp only [lookup, found]
  have unlisted : scope.active.contains name = false := by simpa using idle
  simp only [enter, looked, bind, Except.bind, arity, ne_eq, not_true_eq_false, if_false, unlisted,
    Bool.false_eq_true]
  exact ⟨_, rfl⟩

theorem get?_leave {entered : Entered} (begun : scope.enter name args = .ok entered)
    (arity : args.length = entered.method.params.length) (inner : Scope) (key : String) :
    (inner.leave entered.hidden).vars.get? key =
      if key ∈ entered.method.params then scope.vars.get? key else inner.vars.get? key := by
  have bound : key ∈ (Variables.ofPairs (entered.method.params.zip args)).names ↔ key ∈ entered.method.params := by
    rw [Variables.mem_names_ofPairs, List.map_fst_zip (Nat.le_of_eq arity.symm)]
  rw [(enter_ok_bindings begun).1]
  refine (Variables.get?_restore _ scope.vars.get? inner.vars key).trans ?_
  simp only [bound]

end Scope

/-- However the lines of a method end, in whatever session it is called, every parameter is bound as it was
before the call and the same calls are running; and unless the method was running, so that the call is
refused, every other variable has the value that the lines left it with. -/
theorem invoke_unbinds {κ : Type} [Canvas κ] {s : Session κ} {name : String} {method : Method} {args : List Float}
    (found : s.scope.method? name = some method) (arity : args.length = method.params.length) (depth : Nat) :
    let after := (Session.invoke (Session.runLines depth) name args s).session
    (∀ param ∈ method.params, after.scope.vars.get? param = s.scope.vars.get? param) ∧
    after.scope.active = s.scope.active ∧
    (name ∉ s.scope.active → ∃ entered, s.scope.enter name args = .ok entered ∧
      ∀ other ∉ method.params, after.scope.vars.get? other =
        (Session.runLines depth method.body { s with scope := entered.scope }).session.scope.vars.get? other) := by
  intro after
  have active : after.scope.active = s.scope.active :=
    (Session.invoke_evolves (Session.runLines_evolves depth) name args s).active
  cases begun : s.scope.enter name args with
  | error cause =>
    have unchanged : after = s := by simp only [after, Session.invoke, begun, Ran.session]
    refine ⟨fun param _ => by rw [unchanged], active, fun idle => ?_⟩
    obtain ⟨entered, begins⟩ := Scope.enter_begins found arity idle
    rw [begun] at begins
    cases begins
  | ok entered =>
    obtain ⟨same, -⟩ := Scope.enter_ok begun
    obtain rfl : method = entered.method := Option.some.inj (found.symm.trans same)
    have left : after.scope =
        (Session.runLines depth entered.method.body { s with scope := entered.scope }).session.scope.leave
          entered.hidden := by
      simp only [after, Session.invoke, begun, Ran.session_mapSession]
    refine ⟨fun param inside => ?_, active, fun _ => ⟨entered, rfl, fun other outside => ?_⟩⟩
    · rw [left, Scope.get?_leave begun arity, if_pos inside]
    · rw [left, Scope.get?_leave begun arity, if_neg outside]

/-- A call inside a call with the same parameter, which is set before a line that fails. -/
theorem invoke_unbinds_stopped_inside :
    let text := "method f x\nset x y\nvar y x\nendmethod\nmethod g x\nf(x)\nendmethod\nvar x 1\nvar y 2"
    let s := (Session.start ({} : Recording) false).after [.program text]
    (Session.invoke (Session.runLines 3) "g" [3] s).reason? =
      some (.script ⟨.duplicateVariable "y", some "var y x", some 3⟩) ∧
    (Session.invoke (Session.runLines 3) "g" [3] s).session.scope.vars.get? "x" = s.scope.vars.get? "x" ∧
    (Session.invoke (Session.runLines 3) "g" [3] s).session.scope.active = s.scope.active := by
  intro text s
  have found : s.scope.method? "g" = some ⟨"g", ["x"], [⟨6, "f(x)"⟩]⟩ := by decide +kernel
  have arity : [(3 : Float)].length = ["x"].length := rfl
  have unbinds := invoke_unbinds found arity 3
  exact ⟨by decide +kernel, unbinds.1 "x" List.mem_cons_self, unbinds.2.1⟩

end Sketch
