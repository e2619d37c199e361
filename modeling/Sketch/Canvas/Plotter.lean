import Sketch.Canvas

/-! A pen plotter: every primitive becomes a row of instructions to a screen and a pen that moves
over it. The screen is set up when the first primitive comes. -/
namespace Sketch

inductive Instruction where
  | openScreen
  | sizeScreen (width height : Int)
  /-- The coordinates of the left, lower, right and upper edge. -/
  | setCoordinates (left lower right upper : Int)
  | holdUpdates
  | makePen
  | hidePen
  | liftPen
  | lowerPen
  | hurry
  | goTo (target : Point)
  | penColor (color : String)
  | fillColor (color : String)
  | penSize (thickness : Float)
  | beginFill
  | endFill
  | write (content : String)
  | clearScreen
  | background (color : String)
  | update
  | waitForClick
  deriving Repr

structure Plotter where
  width : Int := 640
  height : Int := 480
  calls : List Instruction := []
  deriving Repr

namespace Plotter

def started (plotter : Plotter) : Bool :=
  !plotter.calls.isEmpty

def setUp (plotter : Plotter) : List Instruction :=
  [.openScreen, .sizeScreen plotter.width plotter.height,
   .setCoordinates 0 plotter.height plotter.width 0, .holdUpdates,
   .makePen, .hidePen, .liftPen, .hurry]

def trace (pen : Pen) (filled : Bool) : List Point → List Instruction
  | [] => []
  | first :: rest =>
    [.penColor pen.color, .fillColor pen.color, .penSize pen.thickness, .liftPen, .goTo first]
      ++ (if filled then [.beginFill] else [])
      ++ .lowerPen :: rest.map .goTo
      ++ .liftPen :: (if filled then [.endFill] else [])

/-- Points with the first one again at the end. -/
def loopBack (points : List Point) : List Point :=
  points ++ points.take 1

/-- The instructions of one primitive. A shape turned by an infinite angle has none. -/
def expand : Primitive → Except Fault (List Instruction)
  | .moveCursor target => .ok [.liftPen, .goTo target]
  | .line start stop pen => .ok (trace pen false [start, stop])
  | .rectangle filled corner width height pen =>
    (rectanglePoints corner width height pen.rotation).map fun points => trace pen filled (loopBack points)
  | .ellipse filled center radius pen =>
    .ok (trace pen filled (loopBack (circlePoints center radius circleSteps)))
  | .polygon filled corners pen =>
    (polygonPoints corners pen.rotation).map fun points => trace pen filled (loopBack points)
  | .text content anchor color => .ok [.liftPen, .goTo anchor, .penColor color, .write content]
  | .clear color => .ok [.clearScreen, .background color]

def give (plotter : Plotter) (instructions : List Instruction) : Plotter :=
  { plotter with
    calls := plotter.calls ++ (if plotter.started then [] else plotter.setUp) ++ instructions }

end Plotter

instance : Canvas Plotter where
  draw primitive plotter := (Plotter.expand primitive).map plotter.give
  refresh plotter :=
    if plotter.started then { plotter with calls := plotter.calls ++ [.update] } else plotter

inductive Ending where
  | nothingDrawn | complete | closedByUser
  deriving Repr, DecidableEq

def Ending.message : Ending → String
  | nothingDrawn => "Nothing was drawn."
  | complete => "Drawing complete."
  | closedByUser => "Turtle window closed by user."

/-- Keeps the screen open until it is clicked, or closed if the user does that instead. -/
def Plotter.hold (plotter : Plotter) (closed : Bool) : Ending × Plotter :=
  if plotter.started then
    (if closed then .closedByUser else .complete,
      { plotter with calls := plotter.calls ++ [.waitForClick] })
  else (.nothingDrawn, plotter)

end Sketch
