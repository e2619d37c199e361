/-! Points in the plane, with y growing downwards, and the outlines of the shapes that a pen
draws. -/
namespace Sketch

structure Point where
  x : Float
  y : Float
  deriving Repr

def Point.origin : Point := ⟨0, 0⟩

/-- What a drawing surface cannot do: turn by an infinite angle. -/
inductive Fault where
  | infiniteAngle
  deriving Repr, DecidableEq

def Fault.message : Fault → String
  | infiniteAngle => "math domain error"

def pi : Float := 3.141592653589793

def radians (degrees : Float) : Float :=
  degrees * (pi / 180)

def Point.rotate (pivot : Point) (cos sin : Float) (p : Point) : Point :=
  let dx := p.x - pivot.x
  let dy := p.y - pivot.y
  ⟨pivot.x + dx * cos - dy * sin, pivot.y + dx * sin + dy * cos⟩

/-- Turns points clockwise about a pivot; no turn leaves them exactly as they are. -/
def rotatePoints (points : List Point) (pivot : Point) (degrees : Float) : Except Fault (List Point) :=
  if degrees == 0 then .ok points
  else
    let angle := radians degrees
    if angle.isInf then .error .infiniteAngle
    else .ok (points.map (pivot.rotate angle.cos angle.sin))

def circlePoints (center : Point) (radius : Float) (steps : Nat) : List Point :=
  (List.range steps).map fun i =>
    let angle := 2 * pi * i.toFloat / steps.toFloat
    ⟨center.x + radius * angle.cos, center.y + radius * angle.sin⟩

def circleSteps : Nat := 72

/-- The corners of a rectangle turned about the first one. -/
def rectanglePoints (corner : Point) (width height degrees : Float) : Except Fault (List Point) :=
  rotatePoints
    [corner, ⟨corner.x + width, corner.y⟩, ⟨corner.x + width, corner.y + height⟩,
      ⟨corner.x, corner.y + height⟩]
    corner degrees

def mean (values : List Float) : Float :=
  values.foldl (· + ·) 0 / values.length.toFloat

/-- The corners of a polygon turned about their mean. -/
def polygonPoints (corners : List Point) (degrees : Float) : Except Fault (List Point) :=
  rotatePoints corners ⟨mean (corners.map (·.x)), mean (corners.map (·.y))⟩ degrees

end Sketch
