import Sketch.Pen

/-! Canvases: anything that takes drawing primitives one after the other and can be refreshed. -/
namespace Sketch

inductive Primitive where
  | moveCursor (target : Point)
  | line (start stop : Point) (pen : Pen)
  | rectangle (filled : Bool) (corner : Point) (width height : Float) (pen : Pen)
  | ellipse (filled : Bool) (center : Point) (radius : Float) (pen : Pen)
  | polygon (filled : Bool) (corners : List Point) (pen : Pen)
  | text (content : String) (anchor : Point) (color : String)
  | clear (color : String)
  deriving Repr

def Primitive.name : Primitive → String
  | moveCursor _ => "move_cursor"
  | line .. => "draw_line"
  | rectangle filled .. => if filled then "fill_rect" else "draw_rect"
  | ellipse filled .. => if filled then "fill_ellipse" else "draw_ellipse"
  | polygon filled .. => if filled then "fill_polygon" else "draw_polygon"
  | text .. => "draw_text"
  | clear _ => "clear"

class Canvas (κ : Type) where
  draw : Primitive → κ → Except Fault κ
  refresh : κ → κ

end Sketch
