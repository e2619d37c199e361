import Sketch.Text.Blank
import Sketch.Text.Unprintable

/-! Quoted text: the text between single quotes, or between double quotes if it holds a single
quote and no double one. The quote, the backslash and every unprintable character are escaped. -/
namespace Sketch.Text

/-- The last `width` hexadecimal digits of a number. -/
def hexDigits : Nat → Nat → List Char
  | 0, _ => []
  | width + 1, n => hexDigits width (n / 16) ++ [(n % 16).digitChar]

def quoteMark (text : List Char) : Char :=
  if text.contains '\x27' && !text.contains '\x22' then '\x22' else '\x27'

def escapeChar (mark c : Char) : List Char :=
  if c = mark || c = '\\' then ['\\', c]
  else if c = '\t' then ['\\', 't']
  else if c = '\n' then ['\\', 'n']
  else if c = '\r' then ['\\', 'r']
  else if !inRanges unprintableRanges c then [c]
  else if c.toNat < 0x100 then '\\' :: 'x' :: hexDigits 2 c.toNat
  else if c.toNat < 0x10000 then '\\' :: 'u' :: hexDigits 4 c.toNat
  else '\\' :: 'U' :: hexDigits 8 c.toNat

def quoteChars (text : List Char) : List Char :=
  quoteMark text :: text.flatMap (escapeChar (quoteMark text)) ++ [quoteMark text]

def quote (text : String) : String :=
  String.ofList (quoteChars text.toList)

end Sketch.Text
