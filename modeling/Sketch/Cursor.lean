import Sketch.Token

/-! Reading a line token by token. A cursor knows what is left to read; a reading that cannot go on
tells where it got stuck. -/
namespace Sketch

/-- The text that is left, and the text from the last token on. -/
structure Cursor where
  rest : List Char
  last : List Char
  deriving Repr, DecidableEq

/-- How a reading gets stuck: at a text that no allowed token begins, or at the end of the line,
after the token that `last` begins with. -/
inductive Stuck where
  | unexpected (rest : List Char)
  | ended (last : List Char)
  deriving Repr, DecidableEq

def Stuck.tail : Stuck → List Char
  | unexpected rest => rest
  | ended last => last

/-- The column, counted from one, at which a reading of `text` got stuck. -/
def Stuck.column (stuck : Stuck) (text : List Char) : Nat :=
  text.length - stuck.tail.length + 1

namespace Cursor

def take (scan : Scan) (cursor : Cursor) : Except Stuck (String × Cursor) :=
  if cursor.rest.isEmpty then .error (.ended cursor.last)
  else match scan cursor.rest with
    | none => .error (.unexpected cursor.rest)
    | some (token, rest) => .ok (String.ofList token, ⟨rest, cursor.rest⟩)

def takePart (scan : Scan) (cursor : Cursor) : Except Stuck (String × Cursor) := do
  let (_, cursor) ← cursor.take scanGap
  cursor.take scan

def skipGap (cursor : Cursor) : Cursor :=
  match scanGap cursor.rest with
  | some (_, rest) => ⟨rest, cursor.rest⟩
  | none => cursor

def finish {α : Type} (result : α) (cursor : Cursor) : Except Stuck α :=
  if cursor.rest.isEmpty then .ok result else .error (.unexpected cursor.rest)

def takeNames (cursor : Cursor) : Nat → Except Stuck (List String × Cursor)
  | 0 => .ok ([], cursor)
  | bound + 1 =>
    if cursor.rest.isEmpty then .ok ([], cursor)
    else do
      let (name, cursor) ← cursor.takePart scanName
      let (names, cursor) ← cursor.takeNames bound
      .ok (name :: names, cursor)

def takeClose (cursor : Cursor) : Except Stuck (List String × Cursor) := do
  let (_, cursor) ← cursor.take (scanChar ')')
  .ok ([], cursor)

def takeMoreOperands (cursor : Cursor) : Nat → Except Stuck (List String × Cursor)
  | 0 => cursor.takeClose
  | bound + 1 =>
    if cursor.rest.head? = some ',' then do
      let (_, cursor) ← cursor.take (scanChar ',')
      let (operand, cursor) ← cursor.skipGap.take scanOperand
      let (operands, cursor) ← cursor.takeMoreOperands bound
      .ok (operand :: operands, cursor)
    else cursor.takeClose

/-- The operands of a call between parentheses. No more of them fit than there are characters. -/
def takeOperands (cursor : Cursor) : Except Stuck (List String × Cursor) := do
  let (_, cursor) ← cursor.take (scanChar '(')
  if cursor.rest.head? = some ')' then cursor.takeClose
  else
    let (operand, cursor) ← cursor.take scanOperand
    let (operands, cursor) ← cursor.takeMoreOperands cursor.rest.length
    .ok (operand :: operands, cursor)

end Cursor

end Sketch
