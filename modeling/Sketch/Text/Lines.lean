import Sketch.Text.Blank

/-! Texts in pieces: the parts between separators, the lines of a text, and the numbered lines of a
program. A line ends at any line break of any script, and a carriage return followed by a line feed
is one break. -/
namespace Sketch.Text

/-- The parts between single separators: one more than there are separators, empty ones included. -/
def splitAt (separator : Char) : List Char → List (List Char)
  | [] => [[]]
  | c :: rest =>
    if c = separator then [] :: splitAt separator rest
    else match splitAt separator rest with
      | [] => [[c]]
      | part :: parts => (c :: part) :: parts

def lineBreakRanges : List (Nat × Nat) :=
  [(0x000A, 0x000D), (0x001C, 0x001E), (0x0085, 0x0085), (0x2028, 0x2029)]

def isLineBreak (c : Char) : Bool :=
  inRanges lineBreakRanges c

/-- The lines without their breaks. Text after the last break is a line unless it is empty. -/
def splitLines : List Char → List (List Char)
  | [] => []
  | '\r' :: '\n' :: rest => [] :: splitLines rest
  | c :: rest =>
    if isLineBreak c then [] :: splitLines rest
    else match splitLines rest with
      | [] => [[c]]
      | line :: lines => (c :: line) :: lines

/-- The text in which every carriage return, alone or before a line feed, is a line feed. -/
def normalizeNewlines : List Char → List Char
  | [] => []
  | '\r' :: '\n' :: rest => '\n' :: normalizeNewlines rest
  | c :: rest => (if c = '\r' then '\n' else c) :: normalizeNewlines rest

end Sketch.Text

namespace Sketch
open Text

structure SourceLine where
  number : Int
  text : String
  deriving Repr, DecidableEq

/-- The lines that are not blank, the first of all the lines being number `number`. -/
def numberLines (number : Int) : List (List Char) → List SourceLine
  | [] => []
  | line :: lines =>
    if (trim line).isEmpty then numberLines (number + 1) lines
    else ⟨number, String.ofList (trim line)⟩ :: numberLines (number + 1) lines

def splitProgram (program : String) : List SourceLine :=
  numberLines 1 (splitLines program.toList)

end Sketch
