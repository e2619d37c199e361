import Sketch.Blocks
import Sketch.Canvas
import Sketch.Command
import Sketch.Scope

/-! The state of a drawing session on some canvas, and the commands that change it in one step. -/
namespace Sketch

structure State (κ : Type) where
  scope : Scope := {}
  blocks : Blocks := {}
  pen : PenState := {}
  canvas : κ

/-- Why a run stops before its end: an error of the script, something the canvas cannot do, or the
end of the allowance for nested runs. -/
inductive Stop where
  | script (error : ScriptError)
  | canvas (fault : Fault)
  /-- Only the end of the allowance. The stack limit of a host interpreter is not modelled. -/
  | tooDeep
  deriving Repr, DecidableEq

def Stop.ofCause (cause : Cause) : Stop :=
  .script { cause }

def Stop.attach (line : SourceLine) : Stop → Stop
  | script error => .script (error.attach line.text (some line.number))
  | canvas fault => .canvas fault
  | tooDeep => .tooDeep

namespace State
variable {κ : Type} [Canvas κ]

def number (s : State κ) (token : String) : Except Stop Float :=
  (s.scope.vars.resolve token).mapError .ofCause

def numbers (s : State κ) (tokens : List String) : Except Stop (List Float) :=
  tokens.mapM s.number

def point (s : State κ) (x y : String) : Except Stop Point := do
  let x ← s.number x
  let y ← s.number y
  .ok ⟨x, y⟩

def draw (s : State κ) (primitive : Primitive) : Except Stop (State κ) :=
  match Canvas.draw primitive s.canvas with
  | .ok canvas => .ok { s with canvas }
  | .error fault => .error (.canvas fault)

def refresh (s : State κ) : State κ :=
  { s with canvas := Canvas.refresh s.canvas }

def present (s : State κ) (primitive : Primitive) : Except Stop (State κ) :=
  (s.draw primitive).map refresh

def place (s : State κ) (position : Point) : State κ :=
  { s with pen := { s.pen with position } }

def moveTo (s : State κ) (x y : String) : Except Stop (State κ) := do
  let target ← s.point x y
  (s.place target).draw (.moveCursor target)

def drawTo (s : State κ) (x y : String) : Except Stop (State κ) := do
  let target ← s.point x y
  let s ← s.draw (.line s.pen.position target s.pen.pen)
  .ok (s.place target).refresh

def rectangle (s : State κ) (width height : String) : Except Stop (State κ) := do
  let width ← s.number width
  let height ← s.number height
  s.present (.rectangle s.pen.fill s.pen.position width height s.pen.pen)

def circle (s : State κ) (radius : String) : Except Stop (State κ) := do
  let radius ← s.number radius
  s.present (.ellipse s.pen.fill s.pen.position radius s.pen.pen)

def triangle (s : State κ) (x₁ y₁ x₂ y₂ x₃ y₃ : String) : Except Stop (State κ) := do
  let first ← s.point x₁ y₁
  let second ← s.point x₂ y₂
  let third ← s.point x₃ y₃
  s.present (.polygon s.pen.fill [first, second, third] s.pen.pen)

def text (s : State κ) (content : String) : Except Stop (State κ) :=
  s.present (.text content s.pen.position textColor)

def clear (s : State κ) : Except Stop (State κ) := do
  let s ← s.draw (.clear clearColor)
  .ok (s.place .origin).refresh

def reset (s : State κ) : Except Stop (State κ) :=
  (s.place .origin).draw (.moveCursor .origin)

def setColor (s : State κ) (color : String) : State κ :=
  { s with pen := { s.pen with color } }

def setFill (s : State κ) (fill : Bool) : State κ :=
  { s with pen := { s.pen with fill } }

def lineWidth (s : State κ) (width : String) : Except Stop (State κ) := do
  let thickness ← s.number width
  .ok { s with pen := { s.pen with thickness } }

def rotate (s : State κ) (angle : String) : Except Stop (State κ) := do
  let rotation ← s.number angle
  .ok { s with pen := { s.pen with rotation } }

def setVariables (s : State κ) (change : Except Cause Variables) : Except Stop (State κ) :=
  match change with
  | .ok vars => .ok { s with scope := { s.scope with vars } }
  | .error cause => .error (.ofCause cause)

def declare (s : State κ) (name value : String) : Except Stop (State κ) := do
  let value ← s.number value
  s.setVariables (s.scope.vars.define name value)

def assign (s : State κ) (name value : String) : Except Stop (State κ) := do
  let value ← s.number value
  s.setVariables (s.scope.vars.assign name value)

def setBlocks (s : State κ) (change : Except Cause Blocks) : Except Stop (State κ) :=
  match change with
  | .ok blocks => .ok { s with blocks }
  | .error cause => .error (.ofCause cause)

end State

end Sketch
