import Sketch.Geometry

/-! The pen: where it is and how it draws. -/
namespace Sketch

structure Pen where
  color : String
  thickness : Float
  rotation : Float
  deriving Repr

structure PenState where
  position : Point := .origin
  color : String := "black"
  thickness : Float := 1
  fill : Bool := false
  rotation : Float := 0
  deriving Repr

def PenState.pen (state : PenState) : Pen :=
  ⟨state.color, state.thickness, state.rotation⟩

/-- Texts are black whatever the color of the pen. -/
def textColor : String := "black"

def clearColor : String := "white"

end Sketch
