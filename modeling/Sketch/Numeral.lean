import Sketch.Text.Digit
import Sketch.Decimal.Binary

/-! Numerals: how a script writes a number. A sign, digits with or without a point, and an exponent,
with decimal digits of any script. Reading takes the longest numeral that a text begins with. -/
namespace Sketch
open Text

structure Numeral.Exponent where
  mark : Char
  sign : Option Char
  digits : List Char
  deriving Repr, DecidableEq

structure Numeral where
  sign : Option Char
  whole : List Char
  /-- The digits after the point, if there is a point. -/
  fraction : Option (List Char)
  exponent : Option Numeral.Exponent
  deriving Repr, DecidableEq

namespace Numeral

def Exponent.chars (e : Exponent) : List Char :=
  e.mark :: e.sign.toList ++ e.digits

def chars (n : Numeral) : List Char :=
  n.sign.toList ++ n.whole ++ (n.fraction.elim [] ('.' :: ·)) ++ (n.exponent.elim [] Exponent.chars)

def takeSign : List Char → Option Char × List Char
  | '+' :: rest => (some '+', rest)
  | '-' :: rest => (some '-', rest)
  | rest => (none, rest)

def takeFraction : List Char → Option (List Char) × List Char
  | '.' :: rest => (some (rest.takeWhile isDigit), rest.dropWhile isDigit)
  | rest => (none, rest)

/-- An exponent mark counts only with a digit after it. -/
def takeExponent (text : List Char) : Option Exponent × List Char :=
  match text with
  | [] => (none, [])
  | mark :: rest =>
    let (sign, digits) := takeSign rest
    if (mark = 'e' || mark = 'E') && (digits.head?.any isDigit) then
      (some ⟨mark, sign, digits.takeWhile isDigit⟩, digits.dropWhile isDigit)
    else (none, text)

/-- The longest numeral at the start of a text, and the text after it. -/
def read? (text : List Char) : Option (Numeral × List Char) :=
  let (sign, afterSign) := takeSign text
  let whole := afterSign.takeWhile isDigit
  let (fraction, afterFraction) := takeFraction (afterSign.dropWhile isDigit)
  if whole ++ fraction.getD [] = [] then none
  else
    let (exponent, rest) := takeExponent afterFraction
    some (⟨sign, whole, fraction, exponent⟩, rest)

def ofText? (text : String) : Option Numeral :=
  match read? text.toList with
  | some (numeral, []) => some numeral
  | _ => none

def Exponent.value (e : Exponent) : Int :=
  if e.sign = some '-' then -digitsValue e.digits else digitsValue e.digits

/-- The nearest double, with the sign kept on a zero. -/
def value (n : Numeral) : Float :=
  let fraction := n.fraction.getD []
  Decimal.withSign (n.sign = some '-') <| Decimal.nearest (digitsValue (n.whole ++ fraction))
    (n.exponent.elim 0 Exponent.value - fraction.length)

end Numeral

end Sketch
