import Sketch.Error
import Sketch.Text.Lines

/-! Open blocks: how many conditions are being run, and the loop or method whose lines are being
collected. At most one block is collected at a time, and a line is offered to it before anything
else is done with it. -/
namespace Sketch

inductive Opening where
  | loop
  | method (name : String) (params : List String)
  deriving Repr, DecidableEq

def Opening.kind : Opening → BlockKind
  | loop => .loop
  | method .. => .method

/-- A block being collected, or one that has just been closed. -/
structure Capture where
  opening : Opening
  lines : List SourceLine := []
  deriving Repr, DecidableEq

structure Blocks where
  /-- Whether an `endif` needs an open condition, and closes only the innermost one. -/
  strict : Bool := false
  depth : Nat := 0
  capture : Option Capture := none
  deriving Repr, DecidableEq

namespace Blocks

def inside (blocks : Blocks) (kind : BlockKind) : Bool :=
  blocks.capture.any (·.opening.kind == kind)

def methodName? (blocks : Blocks) : Option String :=
  match blocks.capture with
  | some ⟨.method name _, _⟩ => some name
  | _ => none

def enterCondition (blocks : Blocks) : Blocks :=
  { blocks with depth := blocks.depth + 1 }

/-- A condition was false and its lines were passed over. -/
def skipCondition (blocks : Blocks) : Blocks :=
  if blocks.strict then blocks else { blocks with depth := 0 }

def ignoresEndif (blocks : Blocks) : Bool :=
  !blocks.strict && blocks.depth == 0

def exitCondition (blocks : Blocks) : Except Cause Blocks :=
  if !blocks.strict then .ok { blocks with depth := 0 }
  else match blocks.depth with
    | 0 => .error .strayEndif
    | depth + 1 => .ok { blocks with depth }

def openBlock (blocks : Blocks) (opening : Opening) : Except Cause Blocks :=
  match blocks.capture with
  | some outer => .error (.openedInside opening.kind outer.opening.kind)
  | none => .ok { blocks with capture := some { opening } }

def closeBlock (blocks : Blocks) (kind : BlockKind) : Except Cause (Capture × Blocks) :=
  match blocks.capture with
  | none => .error (.strayCloser kind)
  | some capture =>
    if capture.opening.kind = kind then .ok (capture, { blocks with capture := none })
    else .error (.strayCloser kind)

def collect (blocks : Blocks) (line : SourceLine) : Blocks :=
  { blocks with capture := blocks.capture.map fun capture =>
      { capture with lines := capture.lines ++ [line] } }

/-- Offers a line to the block being collected, which the line closes or joins. -/
def feed (blocks : Blocks) (line : SourceLine) : Except Cause (Option Capture × Blocks) :=
  match leadingKeyword? line.text with
  | some .loop => .error (.nested .loop)
  | some .method => .error (.nested .method)
  | some .endLoop => (blocks.closeBlock .loop).map fun (capture, blocks) => (some capture, blocks)
  | some .endMethod => (blocks.closeBlock .method).map fun (capture, blocks) => (some capture, blocks)
  | _ => .ok (none, blocks.collect line)

end Blocks

/-- How many lines there are up to and with the `endif` of a condition, when `depth` further
conditions are open inside it. -/
def linesToEndif (depth : Nat) : List SourceLine → Option Nat
  | [] => none
  | line :: rest =>
    match leadingKeyword? line.text with
    | some .condition => (linesToEndif (depth + 1) rest).map (· + 1)
    | some .endCondition =>
      match depth with
      | 0 => some 1
      | depth + 1 => (linesToEndif depth rest).map (· + 1)
    | _ => (linesToEndif depth rest).map (· + 1)

/-- The index just after the `endif` of a condition whose lines begin at `start`. -/
def skipToEndif (lines : List SourceLine) (start : Nat) : Except Cause Nat :=
  match linesToEndif 0 (lines.drop start) with
  | some count => .ok (start + count)
  | none => .error .unclosedIf

end Sketch
