import Sketch.Color
import Sketch.Form

/-! The grammar of lines: every keyword with its form, and calls of methods. -/
namespace Sketch
open Text

def readColor (name : String) : Reading :=
  if isKnownColor name then .ok (.color (lower name)) else .error (.unknownColor name)

def readMethod (name : String) (params : List String) : Reading :=
  if (Keyword.ofWord? (lower name)).isSome then .error (.keywordAsMethod name)
  else if params.Nodup then .ok (.method name params)
  else .error (.repeatedParameter name)

def Keyword.form : Keyword → Form
  | moveTo => .twoOperands .moveTo
  | drawTo => .twoOperands .drawTo
  | rectangle => .twoOperands .rectangle
  | circle => .operand .circle
  | triangle =>
    .part .operand fun x₁ => .part .operand fun y₁ => .part .operand fun x₂ =>
    .part .operand fun y₂ => .part .operand fun x₃ => .part .operand fun y₃ =>
      .bare (.triangle x₁ y₁ x₂ y₂ x₃ y₃)
  | color => .part .name fun name => .done (readColor name)
  | reset => .bare .reset
  | fill => .part .switch fun word => .bare (.fill (lower word == "on"))
  | lineWidth => .operand .lineWidth
  | rotate => .operand .rotate
  | text => .freeText fun content => .ok (.text content)
  | clear => .bare .clear
  | declare => .nameAndOperand .declare
  | assign => .nameAndOperand .assign
  | condition => .freeText fun test => (Condition.parse test).map .condition
  | endCondition => .bare .endCondition
  | loop => .bare .loop
  | endLoop => .bare .endLoop
  | method => .part .name fun name => .names (readMethod name)
  | endMethod => .bare .endMethod

def isCall (text : List Char) : Bool :=
  match scanName text with
  | some (_, '(' :: _) => true
  | _ => false

/-- The form that a leading name asks for: that of a keyword in any letter case, or a call. -/
def leadingForm (name : String) : Form :=
  match Keyword.ofWord? (lower name) with
  | some keyword => keyword.form
  | none => .operands fun args => .ok (.call name args)

/-- Reads a line without blanks at its ends: a leading name, then its form. -/
def readLine (text : List Char) : Except Stuck Reading := do
  let (name, cursor) ← Cursor.take scanName ⟨text, text⟩
  (leadingForm name).read cursor

def Command.parse (line : String) : Except Cause Command :=
  let text := trim line.toList
  if (leadingKeyword? line).isNone && !isCall text then
    .error (.unknownCommand (String.ofList (firstWord text)))
  else match readLine text with
    | .ok reading => reading
    | .error stuck => .error (.cannotParse (String.ofList text) (stuck.column text))

end Sketch
