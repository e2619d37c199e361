import Sketch.Check
import Sketch.Session.Run

/-! Sessions as a host sees them: programs and calls one after the other on one canvas, where
variables, methods, the pen and an open block outlive each of them. -/
namespace Sketch

namespace Session
variable {κ : Type} [Canvas κ]

def start (canvas : κ) (strict : Bool) : Session κ :=
  { canvas, blocks := { strict } }

/-- How deep runs can be nested: the lines themselves, the replay of a loop, and every method once,
those that the lines may define included. No run needs more. The stack limit of a host
interpreter, which may be reached by calls nested less deep than this, is not modelled: `tooDeep` is
only the end of the allowance. -/
def allowance (s : Session κ) (lines : List SourceLine) : Nat :=
  s.scope.methods.length + lines.length + 2

/-- Shows the canvas after a run that came to its end, and notes an error of the script. -/
def conclude (complaint : String) : Ran κ → Ran κ
  | .done s => .done { s with toState := s.refresh }
  | .stopped (.script error) s => .stopped (.script error) (s.note .info (complaint ++ error.text))
  | .stopped reason s => .stopped reason s

def runProgram (program : String) (s : Session κ) : Ran κ :=
  let lines := splitProgram program
  conclude "script stopped: " (runLines (s.allowance lines) lines s)

def callMethod (name : String) (args : List Float) (s : Session κ) : Ran κ :=
  conclude s!"call to {name} failed: " (invoke (runLines (s.allowance [])) name args s)

end Session

/-- Runs a whole script in a session of its own; an error of the script is also a warning. -/
def runScript {κ : Type} [Canvas κ] (canvas : κ) (strict : Bool) (program : String) : Ran κ :=
  match (Session.start canvas strict).runProgram program with
  | .stopped (.script error) s => .stopped (.script error) (s.note .warning error.text)
  | ran => ran

def successMessage : String := "Program executed successfully."

end Sketch
