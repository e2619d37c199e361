import Sketch.Canvas.Recording
import Sketch.Proofs.Flattening

/-! Running the lines of a structured program does just what its tree means. Every tree runs to an end,
because a call leaves fewer methods to call and everything else goes down the tree; and its lines end
in the same way, with the allowance that the session grants them. -/
namespace Sketch

section
variable {κ : Type}

/-- Every method holds the lines of a block without loops and methods. -/
def Scene.Structured (scene : Scene κ) : Prop :=
  ∀ method ∈ scene.scope.methods, ∃ body : Block false, method.body = body.lines

/-- No method is defined, and every call is unwound. -/
structure Unwound (scene : Scene κ) (ended : Ended κ) : Prop where
  methods : ended.scene.scope.methods = scene.scope.methods
  active : ended.scene.scope.active = scene.scope.active

private theorem Unwound.structured {scene : Scene κ} {ended : Ended κ} (unwound : Unwound scene ended)
    (structured : scene.Structured) : ended.scene.Structured := by
  unfold Scene.Structured
  rw [unwound.methods]
  exact structured

private theorem Unwound.callable {scene : Scene κ} {ended : Ended κ} (unwound : Unwound scene ended) :
    ended.scene.scope.callable = scene.scope.callable := by
  simp only [Scope.callable, unwound.methods, unwound.active]

theorem Unwound.trans {scene : Scene κ} {ended final : Ended κ} (first : Unwound scene ended)
    (second : Unwound ended.scene final) : Unwound scene final :=
  ⟨second.methods.trans first.methods, second.active.trans first.active⟩

private theorem Unwound.leave {scene : Scene κ} {scope : Scope} {name : String} {ended : Ended κ}
    (unwound : Unwound { scene with scope } ended) (methods : scope.methods = scene.scope.methods)
    (active : scope.active = name :: scene.scope.active) (hidden : Hidden) :
    Unwound scene (ended.mapScene fun scene => { scene with scope := scene.scope.leave hidden }) := by
  have tail : ended.scene.scope.active.tail = scene.scope.active := by
    rw [unwound.active]
    exact congrArg List.tail active
  cases ended <;> exact ⟨unwound.methods.trans methods, tail⟩

private theorem Scene.Structured.keeps {s : Session κ} (structured : s.scene.Structured)
    (idle : s.blocks.capture = none) : Keeps (fun _ => True) s := by
  refine ⟨fun method inside line body => ?_, by simp [idle]⟩
  obtain ⟨block, lines⟩ := structured method inside
  exact ⟨trivial, block.inert line (lines ▸ body)⟩

end

section
variable {κ : Type} [Canvas κ]

private theorem Scene.enact_unwound (line : SourceLine) (effect : Except Cause Effect) (scene : Scene κ) :
    Unwound scene (scene.enact line effect) := by
  cases effect with
  | error cause => exact ⟨rfl, rfl⟩
  | ok effect =>
    simp only [Scene.enact]
    cases State.paint effect scene.canvas <;> exact ⟨rfl, rfl⟩

/-- Every block without loops and methods runs to an end where fewer methods than so many can be called. -/
def BodiesEnd (κ : Type) [Canvas κ] (bound : Nat) : Prop :=
  ∀ (body : Block false) (scene : Scene κ), scene.Structured → scene.scope.callable.length < bound →
    ∃ ended, body.Runs scene ended ∧ Unwound scene ended

private theorem PlainLine.total {outer : Bool} (plain : PlainLine) {scene : Scene κ} (structured : scene.Structured)
    (calls : BodiesEnd κ scene.scope.callable.length) :
    ∃ ended, (Item.line plain : Item outer).Runs scene ended ∧ Unwound scene ended := by
  have unchanged : ∀ reason, Unwound scene (.stopped reason scene) := fun _ => ⟨rfl, rfl⟩
  cases read : Command.parse plain.line.text with
  | error cause => exact ⟨_, .malformed read, unchanged _⟩
  | ok command =>
    cases found : command.effect? scene.scope.vars scene.pen with
    | some effect => exact ⟨_, .effect read found, scene.enact_unwound _ _⟩
    | none =>
      cases command with
      | call name args =>
        cases given : args.mapM scene.scope.vars.resolve with
        | error cause => exact ⟨_, .operand read given, unchanged _⟩
        | ok values =>
          cases begun : scene.scope.enter name values with
          | error cause => exact ⟨_, .refused read given begun, unchanged _⟩
          | ok entered =>
            obtain ⟨method, -, methods, active⟩ := Scope.enter_ok begun
            obtain ⟨body, lines⟩ := structured _ (Scope.method?_mem method).1
            obtain ⟨ended, ran, unwound⟩ := calls body { scene with scope := entered.scope }
              (by unfold Scene.Structured; rw [methods]; exact structured) (Scope.callable_enter begun)
            refine ⟨_, .call read given begun lines ran, ?_⟩
            exact unwound.leave methods active _
      | condition | endCondition | loop | endLoop | method | endMethod =>
        exact absurd (leadingKeyword?_of_parse read rfl) (plain.plain _ (by decide))
      | moveTo | drawTo | rectangle | circle | triangle | color | reset | fill | lineWidth | rotate
      | text | clear | declare | assign => simp [Command.effect?] at found

private theorem Item.branch_total {outer : Bool} {opener : ConditionLine} {body : Block outer}
    {closer : Delimiter .endCondition} {scene : Scene κ} {holds : Ended κ → Prop}
    (inner : ∃ ended, body.Runs scene ended ∧ holds ended) (done : holds (.done scene))
    (stopped : ∀ reason, holds (.stopped reason scene)) :
    ∃ ended, (Item.branch opener body closer).Runs scene ended ∧ holds ended := by
  cases evaluated : opener.test.evaluate scene.scope.vars with
  | error cause => exact ⟨_, .undecided evaluated, stopped _⟩
  | ok outcome =>
    cases outcome with
    | false => exact ⟨_, .fails evaluated, done⟩
    | true =>
      obtain ⟨ended, ran, held⟩ := inner
      exact ⟨ended, .holds evaluated ran, held⟩

private theorem Block.cons_total {outer : Bool} {item : Item outer} {rest : Block outer} {scene : Scene κ}
    {holds : Ended κ → Prop} (first : ∃ ended, item.Runs scene ended ∧ holds ended)
    (later : ∀ middle, holds (.done middle) → ∃ ended, rest.Runs middle ended ∧ holds ended) :
    ∃ ended, (Block.cons item rest).Runs scene ended ∧ holds ended := by
  obtain ⟨ended, ran, held⟩ := first
  cases ended with
  | stopped reason after => exact ⟨_, .stop ran, held⟩
  | done middle =>
    obtain ⟨final, further, held'⟩ := later middle held
    exact ⟨final, .next ran further, held'⟩

mutual
theorem Item.total_inner {bound : Nat} (calls : BodiesEnd κ bound) : (item : Item false) → ∀ scene : Scene κ,
    scene.Structured → scene.scope.callable.length ≤ bound → ∃ ended, item.Runs scene ended ∧ Unwound scene ended
  | .line plain, scene, structured, room =>
    plain.total structured fun body inner known fewer => calls body inner known (Nat.lt_of_lt_of_le fewer room)
  | .branch opener body closer, scene, structured, room =>
    Item.branch_total (body.total_inner calls scene structured room) ⟨rfl, rfl⟩ fun _ => ⟨rfl, rfl⟩
theorem Block.total_inner {bound : Nat} (calls : BodiesEnd κ bound) : (block : Block false) → ∀ scene : Scene κ,
    scene.Structured → scene.scope.callable.length ≤ bound → ∃ ended, block.Runs scene ended ∧ Unwound scene ended
  | .nil, scene, structured, room => ⟨_, .nil, rfl, rfl⟩
  | .cons item rest, scene, structured, room =>
    Block.cons_total (item.total_inner calls scene structured room) fun middle unwound => by
      obtain ⟨ended, ran, further⟩ := rest.total_inner calls middle (unwound.structured structured)
        (unwound.callable ▸ room)
      exact ⟨ended, ran, unwound.trans further⟩
end

theorem bodiesEnd (bound : Nat) : BodiesEnd κ bound := by
  induction bound with
  | zero => exact fun _ _ _ room => absurd room (Nat.not_lt_zero _)
  | succ bound ih =>
    exact fun body scene structured room => body.total_inner ih scene structured (Nat.le_of_lt_succ room)

mutual
theorem Item.total {outer : Bool} : (item : Item outer) → ∀ scene : Scene κ, scene.Structured →
    ∃ ended, item.Runs scene ended ∧ ended.scene.Structured
  | .line plain, scene, structured => by
    obtain ⟨ended, ran, unwound⟩ := plain.total structured (bodiesEnd _)
    exact ⟨ended, ran, unwound.structured structured⟩
  | .branch opener body closer, scene, structured =>
    Item.branch_total (body.total scene structured) structured fun _ => structured
  | .loop opener body closer, scene, structured => by
    obtain ⟨ended, ran, unwound⟩ := bodiesEnd _ body scene structured (Nat.lt_succ_self _)
    exact ⟨ended, .loop ran, unwound.structured structured⟩
  | .method opener body closer, scene, structured => by
    cases defined : scene.scope.define ⟨opener.name, opener.params, body.lines⟩ with
    | error cause => exact ⟨_, .duplicate defined, structured⟩
    | ok scope =>
      refine ⟨_, .defines defined, ?_⟩
      obtain rfl := Scope.define_ok defined
      intro method inside
      rcases List.mem_append.mp inside with old | new
      · exact structured method old
      · obtain rfl := List.mem_singleton.mp new
        exact ⟨body, rfl⟩
theorem Block.total {outer : Bool} : (block : Block outer) → ∀ scene : Scene κ, scene.Structured →
    ∃ ended, block.Runs scene ended ∧ ended.scene.Structured
  | .nil, _, structured => ⟨_, .nil, structured⟩
  | .cons item rest, scene, structured =>
    Block.cons_total (item.total scene structured) fun middle known => rest.total middle known
end

theorem Block.Runs.ran {outer : Bool} {block : Block outer} {s : Session κ} {ended : Ended κ}
    (runs : block.Runs s.scene ended) (idle : s.blocks.capture = none) (structured : s.scene.Structured) :
    (Session.runLines (s.allowance block.lines) block.lines s).ended = ended := by
  obtain ⟨enough, ends⟩ := runs.realized.ends
  have deeper := ends (enough + s.allowance block.lines) (Nat.le_add_right _ _) s rfl idle
  rw [Session.runLines_eq_allowance (fun _ _ => trivial) (structured.keeps idle) (Nat.le_add_left _ _)] at deeper
  exact deeper.ran_ended

end

/-- The lines of a structured program end, in a session with no open block whose methods are structured,
just as the meaning of its tree says: with the same error or none, the same variables and methods, the
same pen and the same canvas. -/
theorem runLines_structured {κ : Type} [Canvas κ] {outer : Bool} (block : Block outer) {s : Session κ}
    (idle : s.blocks.capture = none) (structured : s.scene.Structured) (ended : Ended κ) :
    block.Runs s.scene ended ↔ (Session.runLines (s.allowance block.lines) block.lines s).ended = ended := by
  constructor
  · intro runs
    exact runs.ran idle structured
  · intro same
    obtain ⟨final, runs, -⟩ := block.total s.scene structured
    rwa [← same, runs.ran idle structured]

/-- A loop that calls a method, whose only line is no command. -/
def hopping : Block true :=
  .cons (.method ⟨⟨1, "method go"⟩, "go", [], by decide +kernel⟩
    (.cons (.line ⟨⟨2, "hop high"⟩, by decide +kernel⟩) .nil) ⟨⟨3, "EndMethod"⟩, by decide +kernel⟩)
  (.cons (.loop ⟨⟨4, "loop"⟩, by decide +kernel⟩
    (.cons (.line ⟨⟨5, "go()"⟩, by decide +kernel⟩) .nil) ⟨⟨6, "endloop"⟩, by decide +kernel⟩) .nil)

theorem runLines_structured_hopping :
    let s := Session.start ({} : Recording) true
    s.blocks.capture = none ∧ s.scene.Structured ∧
      ∃ scene, hopping.Runs s.scene (.stopped ((Cause.unknownCommand "hop").stopAt ⟨2, "hop high"⟩) scene) := by
  intro s
  have structured : s.scene.Structured := by simp [Scene.Structured, s, Session.start, Session.scene]
  have stopped : Session.runLines (s.allowance hopping.lines) hopping.lines s =
      .stopped ((Cause.unknownCommand "hop").stopAt ⟨2, "hop high"⟩) _ := Ran.eq_stopped (by decide +kernel)
  exact ⟨rfl, structured, _, (runLines_structured hopping rfl structured _).mpr (congrArg Ran.ended stopped)⟩

end Sketch
