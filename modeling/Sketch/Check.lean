import Sketch.Grammar
import Sketch.Text.Lines

/-! Checking a program without running it: every line must be a command. -/
namespace Sketch
open Text

structure Issue where
  line : SourceLine
  cause : Cause
  deriving Repr, DecidableEq

/-- The issues of the lines that are not blank, the first of all the lines being number `number`:
all of them, or none after the first. -/
def checkLines (all : Bool) (number : Int) : List (List Char) → List Issue
  | [] => []
  | raw :: lines =>
    let line : SourceLine := ⟨number, String.ofList (trim raw)⟩
    if (trim raw).isEmpty then checkLines all (number + 1) lines
    else match Command.parse line.text with
      | .ok _ => checkLines all (number + 1) lines
      | .error cause => ⟨line, cause⟩ :: if all then checkLines all (number + 1) lines else []

def checkProgram (program : String) (all : Bool) : List Issue :=
  checkLines all 1 (splitLines program.toList)

def checkMessage : List Issue → String
  | [] => "All commands have valid syntax."
  | issue :: _ => "Syntax error in command: " ++ issue.line.text

end Sketch
