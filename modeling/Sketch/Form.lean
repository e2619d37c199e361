import Sketch.Command
import Sketch.Cursor
import Sketch.Text.Blank

/-! Forms: what may follow the leading word of a line, with the command that each reading stands
for. -/
namespace Sketch

inductive Part where
  | operand | name | switch
  deriving Repr, DecidableEq

def Part.scan : Part → Scan
  | operand => scanOperand
  | name => scanName
  | switch => scanSwitch

/-- A command, or what is wrong with a line that has the right form. -/
abbrev Reading := Except Cause Command

inductive Form where
  | done (reading : Reading)
  | part (sort : Part) (next : String → Form)
  /-- Nothing, or a gap and free text. -/
  | freeText (next : String → Reading)
  | names (next : List String → Reading)
  | operands (next : List String → Reading)

namespace Form

def read : Form → Cursor → Except Stuck Reading
  | done reading, cursor => cursor.finish reading
  | part sort next, cursor => do
    let (token, cursor) ← cursor.takePart sort.scan
    (next token).read cursor
  | freeText next, cursor =>
    if cursor.rest.isEmpty then .ok (next "")
    else do
      let (text, cursor) ← cursor.takePart scanFreeText
      cursor.finish (next (Text.strip text))
  | names next, cursor => do
    let (found, cursor) ← cursor.takeNames cursor.rest.length
    cursor.finish (next found)
  | operands next, cursor => do
    let (found, cursor) ← cursor.takeOperands
    cursor.finish (next found)

def bare (command : Command) : Form :=
  done (.ok command)

def operand (build : String → Command) : Form :=
  part .operand fun value => bare (build value)

def twoOperands (build : String → String → Command) : Form :=
  part .operand fun first => operand (build first)

def nameAndOperand (build : String → String → Command) : Form :=
  part .name fun name => operand (build name)

end Form

end Sketch
