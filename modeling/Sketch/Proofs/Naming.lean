import Sketch.Canvas.Recording
import Sketch.Proofs.Parameters

/-! Names and colors in a session. Variables, methods and parameters come from lines that were read, or
are put back after a call, so that their names are names; and the pen takes its color, and the canvas
its pens, from lines that name a known color. -/
namespace Sketch

def Primitive.pen? : Primitive → Option Pen
  | line _ _ pen => some pen
  | rectangle _ _ _ _ pen => some pen
  | ellipse _ _ _ pen => some pen
  | polygon _ _ pen => some pen
  | moveCursor _ | text .. | clear _ => none

structure Signature (name : String) (params : List String) : Prop where
  free : IsFreeName name.toList
  named : ∀ param ∈ params, IsName param.toList
  distinct : params.Nodup

/-! What a line that was read is known to hold. -/

theorem color_of_parse {line name : String} (read : Command.parse line = .ok (.color name)) : name ∈ knownColors := by
  have spells := spells_of_parse read
  generalize Text.trim line.toList = text at spells
  cases spells with
  | operands _ taken => cases taken
  | color _ _ known => exact known

theorem name_of_parse {line name value : String} (read : Command.parse line = .ok (.declare name value)) :
    IsName name.toList := by
  have spells := spells_of_parse read
  generalize Text.trim line.toList = text at spells
  cases spells with
  | operands _ taken => cases taken
  | declare _ named => exact named

theorem signature_of_parse {line name : String} {params : List String}
    (read : Command.parse line = .ok (.method name params)) : Signature name params := by
  have spells := spells_of_parse read
  generalize Text.trim line.toList = text at spells
  cases spells with
  | operands _ taken => cases taken
  | method _ free named distinct => exact ⟨free, named, distinct⟩

/-! What an effect can change. -/

namespace Variables
variable {vars next : Variables} {name other : String} {value : Float}

private theorem mem_names_define (defined : vars.define name value = .ok next) (inside : other ∈ next.names) :
    other = name ∨ other ∈ vars.names := by
  unfold define at defined
  split at defined
  · cases defined
  · cases defined
    exact mem_names_put.mp inside

private theorem mem_names_assign (assigned : vars.assign name value = .ok next) (inside : other ∈ next.names) :
    other ∈ vars.names := by
  unfold assign at assigned
  split at assigned
  · rename_i present
    cases assigned
    rcases mem_names_put.mp inside with rfl | old
    · exact contains_iff_mem_names.mp present
    · exact old
  · cases assigned

private theorem mem_names_bind {bindings : Variables} :
    other ∈ (vars.bind bindings).names ↔ other ∈ bindings.names ∨ other ∈ vars.names :=
  mem_names_put_all bindings.entries vars

private theorem mem_names_restore {hidden : Hidden} (inside : other ∈ (vars.restore hidden).names) :
    other ∈ hidden.map (·.1) ∨ other ∈ vars.names := by
  induction hidden generalizing vars with
  | nil => exact .inr inside
  | cons entry hidden ih =>
    obtain ⟨name, value⟩ := entry
    rw [List.map_cons, List.mem_cons]
    cases value with
    | some value =>
      rcases ih inside with later | put
      · exact .inl (.inr later)
      · exact (mem_names_put.mp put).imp_left .inl
    | none =>
      rcases ih inside with later | erased
      · exact .inl (.inr later)
      · exact .inr (mem_names_erase.mp erased).2

end Variables

/-- A new variable is named in the line, a new color is named in the line, and what is drawn is drawn
with the pen as it is. -/
theorem effect?_ok {command : Command} {vars : Variables} {pen : PenState} {effect : Effect}
    (found : command.effect? vars pen = some (.ok effect)) :
    (∀ name ∈ effect.vars.names, name ∈ vars.names ∨ ∃ value, command = .declare name value) ∧
    (effect.pen.color = pen.color ∨ command = .color effect.pen.color) ∧
    ∀ primitive ∈ effect.primitive, ∀ drawn ∈ primitive.pen?, drawn = pen.pen := by
  cases effect?_arises found with
  | declare defined =>
    refine ⟨fun other inside => ?_, .inl rfl, by simp⟩
    rcases Variables.mem_names_define defined inside with rfl | old
    · exact .inr ⟨_, rfl⟩
    · exact .inl old
  | assign assigned =>
    exact ⟨fun _ inside => .inl (Variables.mem_names_assign assigned inside), .inl rfl, by simp⟩
  | color name => exact ⟨fun _ => .inl, .inr rfl, by simp⟩
  | _ => exact ⟨fun _ => .inl, .inl rfl, by simp [Primitive.pen?]⟩

structure State.Named {κ : Type} (s : State κ) : Prop where
  vars : ∀ name ∈ s.scope.vars.names, IsName name.toList
  methods : ∀ method ∈ s.scope.methods, Signature method.name method.params
  opening : ∀ capture ∈ s.blocks.capture, ∀ name params, capture.opening = .method name params → Signature name params

namespace State.Named
variable {κ : Type} {s t : State κ} {name : String} {args : List Float} {entered : Scope.Entered}

private theorem params (named : s.Named) (begun : s.scope.enter name args = .ok entered) :
    ∀ param ∈ entered.method.params, IsName param.toList :=
  (named.methods _ (Scope.method?_mem (Scope.enter_ok begun).1).1).named

private theorem mem_params {params : List String} {param : String}
    (inside : param ∈ (Variables.ofPairs (params.zip args)).names) : param ∈ params := by
  obtain ⟨⟨found, value⟩, zipped, rfl⟩ := List.mem_map.mp (Variables.mem_names_ofPairs.mp inside)
  exact (List.of_mem_zip zipped).1

theorem enter (named : s.Named) (begun : s.scope.enter name args = .ok entered) :
    State.Named { s with scope := entered.scope } := by
  obtain ⟨-, -, methods, -⟩ := Scope.enter_ok begun
  refine ⟨fun other inside => ?_, by rw [methods]; exact named.methods, named.opening⟩
  rw [(Scope.enter_ok_bindings begun).2] at inside
  rcases Variables.mem_names_bind.mp inside with bound | old
  · exact named.params begun other (mem_params bound)
  · exact named.vars other old

theorem hidden (named : s.Named) (begun : s.scope.enter name args = .ok entered) :
    ∀ entry ∈ entered.hidden, IsName entry.1.toList := by
  intro entry hides
  have bound : entry.1 ∈ (Variables.ofPairs (entered.method.params.zip args)).names := by
    rw [(Scope.enter_ok_bindings begun).1, Variables.hide] at hides
    obtain ⟨other, inside, rfl⟩ := List.mem_map.mp hides
    exact inside
  exact named.params begun _ (mem_params bound)

theorem unwound (named : s.Named) {hidden : Hidden} (hides : ∀ entry ∈ hidden, IsName entry.1.toList) :
    State.Named { s with scope := s.scope.leave hidden } := by
  refine ⟨fun other inside => ?_, named.methods, named.opening⟩
  rcases Variables.mem_names_restore inside with back | kept
  · obtain ⟨entry, listed, rfl⟩ := List.mem_map.mp back
    exact hides entry listed
  · exact named.vars other kept

end State.Named

namespace Evolves
variable {κ : Type} [Canvas κ]

theorem named {s t : State κ} (evolves : Evolves s t) (named : s.Named) : t.Named := by
  induction evolves with
  | refl => exact named
  | trans _ _ first second => exact second (first named)
  | effect read found =>
    refine ⟨fun name inside => ?_, named.methods, named.opening⟩
    rcases (effect?_ok found).1 name inside with old | ⟨value, rfl⟩
    · exact named.vars name old
    · exact name_of_parse read
  | counts | shows => exact ⟨named.vars, named.methods, named.opening⟩
  | @opens s _ opening read =>
    refine ⟨named.vars, named.methods, ?_⟩
    rintro _ ⟨⟩ name params rfl
    exact signature_of_parse read
  | collects opened =>
    refine ⟨named.vars, named.methods, ?_⟩
    rintro _ ⟨⟩ name params opening
    exact named.opening _ opened name params opening
  | releases => exact ⟨named.vars, named.methods, by simp⟩
  | @defines s name params lines _ opened defined =>
    obtain rfl := Scope.define_ok defined
    refine ⟨named.vars, fun method inside => ?_, by simp⟩
    rcases List.mem_append.mp inside with old | new
    · exact named.methods method old
    · obtain rfl := List.mem_singleton.mp new
      exact named.opening _ opened name params rfl
  | calls begun _ ih => exact (ih (named.enter begun)).unwound (named.hidden begun)

theorem color {s t : State κ} (evolves : Evolves s t) (known : s.pen.color ∈ knownColors) :
    t.pen.color ∈ knownColors := by
  induction evolves with
  | refl | counts | shows | opens | collects | releases | defines => exact known
  | trans _ _ first second => exact second (first known)
  | effect read found =>
    rcases (effect?_ok found).2.1 with same | rfl
    · exact same ▸ known
    · exact color_of_parse read
  | calls _ _ ih => exact ih known

theorem pens {s t : State Recording} (evolves : Evolves s t) (known : s.pen.color ∈ knownColors)
    (drawn : ∀ primitive ∈ s.canvas.operations, ∀ pen ∈ primitive.pen?, pen.color ∈ knownColors) :
    ∀ primitive ∈ t.canvas.operations, ∀ pen ∈ primitive.pen?, pen.color ∈ knownColors := by
  induction evolves with
  | refl | counts | shows | opens | collects | releases | defines => exact drawn
  | trans first _ one two => exact two (first.color known) (one known drawn)
  | effect read found painted =>
    intro primitive inside pen held
    rw [State.paint_operations painted] at inside
    rcases List.mem_append.mp inside with old | last
    · exact drawn primitive old pen held
    · rw [(effect?_ok found).2.2 primitive (Option.mem_toList.mp last) pen held]
      exact known
  | calls _ _ ih => exact ih known drawn

end Evolves

end Sketch
