import Sketch.Text.Blank
import Sketch.Text.CaseTable

/-! Lower case of a text. Most characters have one lower-case character whatever stands around
them; a capital I with a dot becomes two characters, and a capital sigma takes its final form at
the end of a word. -/
namespace Sketch.Text

def lowerSimple (c : Char) : Char :=
  if c.toNat < 0x80 then c.toLower
  else match caseRuns.find? (·.covers c.toNat) with
    | some run => Char.ofNat (c.toNat + run.shift).toNat
    | none => c

/-- Whether the first character that is not skipped is a letter with case. -/
def meetsLetter (text : List Char) : Bool :=
  match text.dropWhile (inRanges ignorableRanges) with
  | [] => false
  | c :: _ => inRanges casedRanges c

/-- The lower case of a character between what stands before it, nearest first, and after it. -/
def lowerChar (before : List Char) (c : Char) (after : List Char) : List Char :=
  if c = '\u03A3' then [if meetsLetter before && !meetsLetter after then '\u03C2' else '\u03C3']
  else if c = '\u0130' then ['i', '\u0307']
  else [lowerSimple c]

def lowerAfter (before : List Char) : List Char → List Char
  | [] => []
  | c :: after => lowerChar before c after ++ lowerAfter (c :: before) after

def lowerCase (text : List Char) : List Char :=
  lowerAfter [] text

def lower (text : String) : String :=
  String.ofList (lowerCase text.toList)

end Sketch.Text
