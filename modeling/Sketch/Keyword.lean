import Sketch.Text.Blank
import Sketch.Text.LowerCase

/-! The words that begin a command, and the word that a line begins with. -/
namespace Sketch
open Text

inductive Keyword where
  | moveTo | drawTo | rectangle | circle | triangle
  | color | reset | fill | lineWidth | rotate | text | clear
  | declare | assign
  | condition | endCondition | loop | endLoop | method | endMethod
  deriving Repr, DecidableEq

namespace Keyword

def word : Keyword → String
  | moveTo => "moveto"
  | drawTo => "drawto"
  | rectangle => "rectangle"
  | circle => "circle"
  | triangle => "triangle"
  | color => "color"
  | reset => "reset"
  | fill => "fill"
  | lineWidth => "linewidth"
  | rotate => "rotate"
  | text => "text"
  | clear => "clear"
  | declare => "var"
  | assign => "set"
  | condition => "if"
  | endCondition => "endif"
  | loop => "loop"
  | endLoop => "endloop"
  | method => "method"
  | endMethod => "endmethod"

def all : List Keyword :=
  [moveTo, drawTo, rectangle, circle, triangle, color, reset, fill, lineWidth, rotate, text, clear,
   declare, assign, condition, endCondition, loop, endLoop, method, endMethod]

def ofWord? (word : String) : Option Keyword :=
  all.find? (·.word == word)

end Keyword

/-- The lower case of the first word of a line; empty for a blank line. -/
def leadingWord (line : String) : String :=
  String.ofList (lowerCase (firstWord line.toList))

def leadingKeyword? (line : String) : Option Keyword :=
  Keyword.ofWord? (leadingWord line)

/-- Blocks whose lines are collected before they run. -/
inductive BlockKind where
  | loop | method
  deriving Repr, DecidableEq

namespace BlockKind

def opener : BlockKind → Keyword
  | loop => .loop
  | method => .method

def closer : BlockKind → Keyword
  | loop => .endLoop
  | method => .endMethod

end BlockKind

end Sketch
