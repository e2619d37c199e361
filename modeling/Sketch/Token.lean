import Sketch.Numeral

/-! Tokens of a line. Each kind of token has a scan that takes the longest one at the start of a
text, if there is one, and leaves the text after it. -/
namespace Sketch

abbrev Scan := List Char → Option (List Char × List Char)

def isNameStart (c : Char) : Bool :=
  c.isAlpha || c == '_'

def isNameChar (c : Char) : Bool :=
  c.isAlphanum || c == '_'

def scanRun (accepts : Char → Bool) : Scan
  | [] => none
  | c :: rest =>
    if accepts c then some (c :: rest.takeWhile accepts, rest.dropWhile accepts) else none

def scanGap : Scan :=
  scanRun fun c => c == ' ' || c == '\t'

def scanName : Scan
  | [] => none
  | c :: rest =>
    if isNameStart c then some (c :: rest.takeWhile isNameChar, rest.dropWhile isNameChar)
    else none

def scanNumeral : Scan := fun text =>
  (Numeral.read? text).map fun (numeral, rest) => (numeral.chars, rest)

def scanOperand : Scan := fun text =>
  scanNumeral text <|> scanName text

/-- The word `on`, else the word `off`, in any letter case. -/
def scanSwitch : Scan := fun text =>
  if (text.take 2).map Char.toLower = ['o', 'n'] then some (text.take 2, text.drop 2)
  else if (text.take 3).map Char.toLower = ['o', 'f', 'f'] then some (text.take 3, text.drop 3)
  else none

def scanFreeText : Scan :=
  scanRun (· != '\n')

def scanChar (expected : Char) : Scan
  | [] => none
  | c :: rest => if c = expected then some ([c], rest) else none

end Sketch
