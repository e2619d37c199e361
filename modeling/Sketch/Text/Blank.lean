/-! Sets of characters, given by closed ranges of code points. One of them is that of the blanks,
with which two things are done: taking them off both ends of a text, and finding its first word. -/
namespace Sketch.Text

def inRanges (ranges : List (Nat × Nat)) (c : Char) : Bool :=
  ranges.any fun range => range.1 ≤ c.toNat && c.toNat ≤ range.2

/-- White space of every script, with the four information separators. -/
def blankRanges : List (Nat × Nat) :=
  [(0x0009, 0x000D), (0x001C, 0x0020), (0x0085, 0x0085), (0x00A0, 0x00A0), (0x1680, 0x1680),
   (0x2000, 0x200A), (0x2028, 0x2029), (0x202F, 0x202F), (0x205F, 0x205F), (0x3000, 0x3000)]

def isBlank (c : Char) : Bool :=
  inRanges blankRanges c

def trimLeft (text : List Char) : List Char :=
  text.dropWhile isBlank

def trim (text : List Char) : List Char :=
  (trimLeft (trimLeft text).reverse).reverse

/-- The characters up to the first blank after the leading ones; empty for a blank text. -/
def firstWord (text : List Char) : List Char :=
  (trimLeft text).takeWhile (!isBlank ·)

def strip (text : String) : String :=
  String.ofList (trim text.toList)

end Sketch.Text
