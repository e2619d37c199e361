import Sketch.Grammar
import Sketch.Log
import Sketch.Session.State

/-! Running lines. A line is collected while a block is open, and else it is parsed and carried
out; a false condition passes over the lines up to its `endif`. Closing a loop and calling a method
run further lines inside the current ones, so every run has an allowance for how deep runs may be
nested. -/
namespace Sketch

structure Session (κ : Type) extends State κ where
  log : Array Entry := #[]

/-- How a run ends, with the session as it then is. -/
inductive Ran (κ : Type) where
  | done (session : Session κ)
  | stopped (reason : Stop) (session : Session κ)

/-- How a line ends: with the next line, with a condition that was false, or with a stop. -/
inductive Step (κ : Type) where
  | next (session : Session κ)
  | skip (session : Session κ)
  | stop (reason : Stop) (session : Session κ)

namespace Ran
variable {κ : Type}

def session : Ran κ → Session κ
  | done s => s
  | stopped _ s => s

def reason? : Ran κ → Option Stop
  | done _ => none
  | stopped reason _ => some reason

def mapSession (change : Session κ → Session κ) : Ran κ → Ran κ
  | done s => done (change s)
  | stopped reason s => stopped reason (change s)

def step : Ran κ → Step κ
  | done s => .next s
  | stopped reason s => .stop reason s

end Ran

namespace Session
variable {κ : Type} [Canvas κ]

def note (s : Session κ) (level : Level) (message : String) : Session κ :=
  { s with log := s.log.push ⟨level, message⟩ }

/-- The step of a command that changes the state at once or fails and leaves it alone. -/
def atOnce (s : Session κ) (change : Except Stop (State κ)) : Step κ :=
  match change with
  | .ok state => .next { s with toState := state }
  | .error reason => .stop reason s

/-- Runs lines inside the current ones. -/
abbrev Runner (κ : Type) := List SourceLine → Session κ → Ran κ

/-- Calls a method: its lines run with its parameters bound, and however they end the call is
unwound. -/
def invoke (run : Runner κ) (name : String) (args : List Float) (s : Session κ) : Ran κ :=
  match s.scope.enter name args with
  | .error cause => .stopped (.ofCause cause) s
  | .ok entered =>
    (run entered.method.body { s with scope := entered.scope }).mapSession fun s =>
      { s with scope := s.scope.leave entered.hidden }

def defineMethod (method : Method) (s : Session κ) : Ran κ :=
  match s.scope.define method with
  | .error cause => .stopped (.ofCause cause) s
  | .ok scope =>
    let params := ", ".intercalate method.params
    .done ({ s with scope }.note .debug
      s!"defined method {method.name}({params}) with {method.body.length} line(s)")

def finishBlock (run : Runner κ) (capture : Capture) (s : Session κ) : Ran κ :=
  match capture.opening with
  | .loop => run capture.lines (s.note .debug s!"replaying loop of {capture.lines.length} line(s)")
  | .method name params => s.defineMethod ⟨name, params, capture.lines⟩

def closeBlock (run : Runner κ) (kind : BlockKind) (s : Session κ) : Ran κ :=
  match s.blocks.closeBlock kind with
  | .error cause => .stopped (.ofCause cause) s
  | .ok (capture, blocks) => finishBlock run capture { s with blocks }

def call (run : Runner κ) (name : String) (args : List String) (s : Session κ) : Ran κ :=
  match s.numbers args with
  | .error reason => .stopped reason s
  | .ok args => invoke run name args s

def enterCondition (test : Condition) (s : Session κ) : Step κ :=
  match test.evaluate s.scope.vars with
  | .error cause => .stop (.ofCause cause) s
  | .ok true => .next { s with blocks := s.blocks.enterCondition }
  | .ok false => .skip s

def exitCondition (s : Session κ) : Step κ :=
  let s := if s.blocks.ignoresEndif then s.note .debug "endif outside an if-block ignored" else s
  s.atOnce (s.setBlocks s.blocks.exitCondition)

def perform (run : Runner κ) (command : Command) (s : Session κ) : Step κ :=
  match command with
  | .moveTo x y => s.atOnce (s.moveTo x y)
  | .drawTo x y => s.atOnce (s.drawTo x y)
  | .rectangle width height => s.atOnce (s.rectangle width height)
  | .circle radius => s.atOnce (s.circle radius)
  | .triangle x₁ y₁ x₂ y₂ x₃ y₃ => s.atOnce (s.triangle x₁ y₁ x₂ y₂ x₃ y₃)
  | .color name => s.atOnce (.ok (s.setColor name))
  | .reset => s.atOnce s.reset
  | .fill enabled => s.atOnce (.ok (s.setFill enabled))
  | .lineWidth width => s.atOnce (s.lineWidth width)
  | .rotate angle => s.atOnce (s.rotate angle)
  | .text content => s.atOnce (s.text content)
  | .clear => s.atOnce s.clear
  | .declare name value => s.atOnce (s.declare name value)
  | .assign name value => s.atOnce (s.assign name value)
  | .condition test => s.enterCondition test
  | .endCondition => s.exitCondition
  | .loop => s.atOnce (s.setBlocks (s.blocks.openBlock .loop))
  | .endLoop => (s.closeBlock run .loop).step
  | .method name params => s.atOnce (s.setBlocks (s.blocks.openBlock (.method name params)))
  | .endMethod => (s.closeBlock run .method).step
  | .call name args => (s.call run name args).step

def collect (run : Runner κ) (line : SourceLine) (s : Session κ) : Step κ :=
  match s.blocks.feed line with
  | .error cause => .stop (.ofCause cause) s
  | .ok (none, blocks) => .next { s with blocks }
  | .ok (some capture, blocks) => (finishBlock run capture { s with blocks }).step

def execute (run : Runner κ) (line : SourceLine) (s : Session κ) : Step κ :=
  let s := s.note .debug s!"line {line.number}: {line.text}"
  match Command.parse line.text with
  | .error cause => .stop (.ofCause cause) s
  | .ok command => s.perform run command

def step (run : Runner κ) (line : SourceLine) (s : Session κ) : Step κ :=
  if s.blocks.capture.isSome then s.collect run line else s.execute run line

/-- Runs lines one after the other, passing over the first `skip` of them. -/
def scan (run : Runner κ) (skip : Nat) : List SourceLine → Session κ → Ran κ
  | [], s => .done s
  | line :: rest, s =>
    match skip with
    | skip + 1 => scan run skip rest s
    | 0 =>
      match s.step run line with
      | .next s => scan run 0 rest s
      | .stop reason s => .stopped (reason.attach line) s
      | .skip s =>
        match linesToEndif 0 rest with
        | none => .stopped ((Stop.ofCause .unclosedIf).attach line) s
        | some count => scan run count rest { s with blocks := s.blocks.skipCondition }

/-- Runs lines with an allowance for nested runs. -/
def runLines : Nat → Runner κ
  | 0 => fun _ s => .stopped .tooDeep s
  | depth + 1 => scan (runLines depth) 0

end Session

end Sketch
