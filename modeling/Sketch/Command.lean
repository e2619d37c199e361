import Sketch.Condition

/-! Commands: what one line of a script asks for. Operands stay as written, a numeral or a name. -/
namespace Sketch

inductive Command where
  | moveTo (x y : String)
  | drawTo (x y : String)
  | rectangle (width height : String)
  | circle (radius : String)
  | triangle (x₁ y₁ x₂ y₂ x₃ y₃ : String)
  | color (name : String)
  | reset
  | fill (enabled : Bool)
  | lineWidth (width : String)
  | rotate (angle : String)
  | text (content : String)
  | clear
  | declare (name value : String)
  | assign (name value : String)
  | condition (test : Condition)
  | endCondition
  | loop
  | endLoop
  | method (name : String) (params : List String)
  | endMethod
  | call (name : String) (args : List String)
  deriving Repr, DecidableEq

namespace Command

/-- The keyword that a command is written with; a call has none. -/
def keyword? : Command → Option Keyword
  | moveTo .. => some .moveTo
  | drawTo .. => some .drawTo
  | rectangle .. => some .rectangle
  | circle _ => some .circle
  | triangle .. => some .triangle
  | color _ => some .color
  | reset => some .reset
  | fill _ => some .fill
  | lineWidth _ => some .lineWidth
  | rotate _ => some .rotate
  | text _ => some .text
  | clear => some .clear
  | declare .. => some .declare
  | assign .. => some .assign
  | condition _ => some .condition
  | endCondition => some .endCondition
  | loop => some .loop
  | endLoop => some .endLoop
  | method .. => some .method
  | endMethod => some .endMethod
  | call .. => none

end Command

end Sketch
