import Sketch.Proofs.Spelling
import Sketch.Proofs.Steps

/-! Structured programs: trees of plain lines, conditions, loops and methods, and what they mean. The
meaning goes by the tree alone. It knows neither of collected lines nor of counted conditions, and it
has no allowance: a loop runs its block, a condition that holds runs its block, and a call runs the
block whose lines are the body of the method. -/
namespace Sketch

def structuralKeywords : List Keyword :=
  [.condition, .endCondition, .loop, .endLoop, .method, .endMethod]

/-- A line that begins with none of these words; it need not be a command. -/
structure PlainLine where
  line : SourceLine
  plain : ∀ keyword ∈ structuralKeywords, leadingKeyword? line.text ≠ some keyword

/-- A line that is a keyword and nothing else, in any letter case. -/
structure Delimiter (keyword : Keyword) where
  line : SourceLine
  spelled : IsWord keyword line.text.toList

structure ConditionLine where
  line : SourceLine
  test : Condition
  read : Command.parse line.text = .ok (.condition test)

structure MethodLine where
  line : SourceLine
  name : String
  params : List String
  read : Command.parse line.text = .ok (.method name params)

mutual
/-- The items of a block. Only an outer block holds loops and methods, their own blocks do not. -/
inductive Item : Bool → Type
  | line {outer : Bool} (plain : PlainLine) : Item outer
  | branch {outer : Bool} (opener : ConditionLine) (body : Block outer) (closer : Delimiter .endCondition) :
      Item outer
  | loop (opener : Delimiter .loop) (body : Block false) (closer : Delimiter .endLoop) : Item true
  | method (opener : MethodLine) (body : Block false) (closer : Delimiter .endMethod) : Item true
inductive Block : Bool → Type
  | nil {outer : Bool} : Block outer
  | cons {outer : Bool} (item : Item outer) (rest : Block outer) : Block outer
end

mutual
def Item.lines {outer : Bool} : Item outer → List SourceLine
  | .line plain => [plain.line]
  | .branch opener body closer => opener.line :: (body.lines ++ [closer.line])
  | .loop opener body closer => opener.line :: (body.lines ++ [closer.line])
  | .method opener body closer => opener.line :: (body.lines ++ [closer.line])
def Block.lines {outer : Bool} : Block outer → List SourceLine
  | .nil => []
  | .cons item rest => item.lines ++ rest.lines
end

/-- What a script can see and change: a session without its open blocks and its log. -/
structure Scene (κ : Type) where
  scope : Scope
  pen : PenState
  canvas : κ

inductive Ended (κ : Type) where
  | done (scene : Scene κ)
  | stopped (reason : Stop) (scene : Scene κ)

namespace Ended
variable {κ : Type}

def scene : Ended κ → Scene κ
  | done scene => scene
  | stopped _ scene => scene

def mapScene (change : Scene κ → Scene κ) : Ended κ → Ended κ
  | done scene => done (change scene)
  | stopped reason scene => stopped reason (change scene)

end Ended

def Cause.stopAt (cause : Cause) (line : SourceLine) : Stop :=
  .script ⟨cause, some line.text, some line.number⟩

namespace Scene
variable {κ : Type} [Canvas κ]

def enact (line : SourceLine) (effect : Except Cause Effect) (scene : Scene κ) : Ended κ :=
  match effect with
  | .error cause => .stopped (cause.stopAt line) scene
  | .ok effect =>
    match State.paint effect scene.canvas with
    | .error fault => .stopped (.canvas fault) scene
    | .ok canvas => .done ⟨{ scene.scope with vars := effect.vars }, effect.pen, canvas⟩

end Scene

mutual
inductive Item.Runs {κ : Type} [Canvas κ] : {outer : Bool} → Item outer → Scene κ → Ended κ → Prop
  | malformed {outer plain scene cause} (unread : Command.parse plain.line.text = .error cause) :
      Item.Runs (.line plain : Item outer) scene (.stopped (cause.stopAt plain.line) scene)
  | effect {outer plain scene command effect} (read : Command.parse plain.line.text = .ok command)
      (found : command.effect? scene.scope.vars scene.pen = some effect) :
      Item.Runs (.line plain : Item outer) scene (scene.enact plain.line effect)
  | operand {outer plain scene name args cause} (read : Command.parse plain.line.text = .ok (.call name args))
      (failed : args.mapM scene.scope.vars.resolve = .error cause) :
      Item.Runs (.line plain : Item outer) scene (.stopped (cause.stopAt plain.line) scene)
  | refused {outer plain scene name args values cause}
      (read : Command.parse plain.line.text = .ok (.call name args))
      (given : args.mapM scene.scope.vars.resolve = .ok values)
      (refused : scene.scope.enter name values = .error cause) :
      Item.Runs (.line plain : Item outer) scene (.stopped (cause.stopAt plain.line) scene)
  | call {outer plain scene name args values entered body ended}
      (read : Command.parse plain.line.text = .ok (.call name args))
      (given : args.mapM scene.scope.vars.resolve = .ok values)
      (begun : scene.scope.enter name values = .ok entered) (lines : entered.method.body = Block.lines body)
      (ran : Block.Runs (body : Block false) { scene with scope := entered.scope } ended) :
      Item.Runs (.line plain : Item outer) scene
        (ended.mapScene fun scene => { scene with scope := scene.scope.leave entered.hidden })
  | holds {outer opener body closer scene ended} (evaluated : opener.test.evaluate scene.scope.vars = .ok true)
      (ran : Block.Runs body scene ended) : Item.Runs (.branch opener body closer : Item outer) scene ended
  | fails {outer opener body closer scene} (evaluated : opener.test.evaluate scene.scope.vars = .ok false) :
      Item.Runs (.branch opener body closer : Item outer) scene (.done scene)
  | undecided {outer opener body closer scene cause}
      (evaluated : opener.test.evaluate scene.scope.vars = .error cause) :
      Item.Runs (.branch opener body closer : Item outer) scene (.stopped (cause.stopAt opener.line) scene)
  | loop {opener body closer scene ended} (ran : Block.Runs body scene ended) :
      Item.Runs (.loop opener body closer) scene ended
  | defines {opener body closer scene scope}
      (defined : scene.scope.define ⟨opener.name, opener.params, body.lines⟩ = .ok scope) :
      Item.Runs (.method opener body closer) scene (.done { scene with scope })
  | duplicate {opener body closer scene cause}
      (refused : scene.scope.define ⟨opener.name, opener.params, body.lines⟩ = .error cause) :
      Item.Runs (.method opener body closer) scene (.stopped (cause.stopAt closer.line) scene)
/-- How a block ends: its items run one after the other until one stops. -/
inductive Block.Runs {κ : Type} [Canvas κ] : {outer : Bool} → Block outer → Scene κ → Ended κ → Prop
  | nil {outer scene} : Block.Runs (.nil : Block outer) scene (.done scene)
  | next {outer item rest scene middle ended} (first : Item.Runs item scene (.done middle))
      (later : Block.Runs rest middle ended) : Block.Runs (.cons item rest : Block outer) scene ended
  | stop {outer item rest scene reason after} (first : Item.Runs item scene (.stopped reason after)) :
      Block.Runs (.cons item rest : Block outer) scene (.stopped reason after)
end

end Sketch
