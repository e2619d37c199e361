import Sketch.Canvas
import Sketch.Decimal.Layout

/-! A canvas that only records what is drawn on it, and how often it is refreshed. -/
namespace Sketch

structure Recording where
  operations : List Primitive := []
  refreshes : Nat := 0
  deriving Repr

instance : Canvas Recording where
  draw primitive canvas := .ok { canvas with operations := canvas.operations ++ [primitive] }
  refresh canvas := { canvas with refreshes := canvas.refreshes + 1 }

def Recording.named (canvas : Recording) (name : String) : List Primitive :=
  canvas.operations.filter (·.name == name)

def Recording.last? (canvas : Recording) : Option Primitive :=
  canvas.operations.getLast?

/-! The line that stands for an operation in a listing. -/

def Point.listed (p : Point) : String :=
  "Point(x=" ++ Decimal.text p.x ++ ", y=" ++ Decimal.text p.y ++ ")"

def Pen.listed (pen : Pen) : String :=
  "Pen(color='" ++ pen.color ++ "', thickness=" ++ Decimal.text pen.thickness ++ ", rotation="
    ++ Decimal.text pen.rotation ++ ")"

def Primitive.arguments : Primitive → List String
  | moveCursor target => [target.listed]
  | line start stop pen => [start.listed, stop.listed, pen.listed]
  | rectangle _ corner width height pen =>
    [corner.listed, Decimal.text width, Decimal.text height, pen.listed]
  | ellipse _ center radius pen => [center.listed, Decimal.text radius, pen.listed]
  | polygon _ corners pen => ["(" ++ ", ".intercalate (corners.map Point.listed) ++ ")", pen.listed]
  | text content anchor color => [content, anchor.listed, color]
  | clear color => [color]

def Primitive.listed (primitive : Primitive) : String :=
  " ".intercalate (primitive.name :: primitive.arguments)

end Sketch
