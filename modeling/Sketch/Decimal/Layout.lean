import Sketch.Decimal.Shortest

/-! Number texts. A number is written with the fewest digits that read back, with a point, and in
positional form unless it is very large or very small; coordinates that come from an angle are
rounded to six places, or to ten digits when they are large. -/
namespace Sketch.Decimal

def zeros (count : Nat) : List Char :=
  List.replicate count '0'

def dropTrailingZeros (digits : List Char) : List Char :=
  (digits.reverse.dropWhile (· == '0')).reverse

def exponentText (exponent : Int) : List Char :=
  let digits := Nat.toDigits 10 exponent.natAbs
  'e' :: (if exponent < 0 then '-' else '+') :: zeros (2 - digits.length) ++ digits

/-- Digits with a point after the first `point` of them, zeros filled in on either side. -/
def positional (digits : List Char) (point : Int) : List Char :=
  if point ≤ 0 then '0' :: '.' :: zeros (-point).toNat ++ digits
  else if digits.length ≤ point.toNat then
    digits ++ zeros (point.toNat - digits.length) ++ ['.', '0']
  else digits.take point.toNat ++ '.' :: digits.drop point.toNat

def scientific (digits : List Char) (point : Int) : List Char :=
  digits.take 1 ++ (if digits.length ≤ 1 then [] else '.' :: digits.drop 1) ++ exponentText (point - 1)

/-- Where positional form ends: numbers from `10 ^ least` to below `10 ^ most`. -/
structure PositionalRange where
  least : Int
  most : Int

def positionalRange : PositionalRange := ⟨-4, 16⟩

def Digits.layout (d : Digits) : List Char :=
  if d.coefficient = 0 then ['0', '.', '0']
  else
    let written := Nat.toDigits 10 d.coefficient
    let point := written.length + d.exponent
    let digits := dropTrailingZeros written
    if positionalRange.least ≤ point - 1 && point - 1 < positionalRange.most then
      positional digits point
    else scientific digits point

def signed (negative : Bool) (text : List Char) : List Char :=
  if negative then '-' :: text else text

/-- The text of a number: `10.0`, `-0.0`, `1e+16`, `1.5e-05`, `inf`, `nan`. -/
def text (x : Float) : String :=
  String.ofList <| match classify x with
    | .notANumber => "nan".toList
    | .infinite => signed (isNegative x) "inf".toList
    | .finite b => signed (isNegative x) (if b.mantissa = 0 then ['0', '.', '0'] else b.shortest.layout)

def fixedPlaces (places units : Nat) : List Char :=
  let digits := Nat.toDigits 10 units
  let padded := zeros (places + 1 - digits.length) ++ digits
  padded.take (padded.length - places) ++ '.' :: padded.drop (padded.length - places)

def Binary.scientific (b : Binary) (places : Nat) : List Char :=
  let magnitude := b.ratio.magnitude
  let units := (b.ratio.scale 10 (places + 1 - magnitude)).round
  let (units, point) := if units = Nat.pow 10 (places + 1) then (units / 10, magnitude + 1) else (units, magnitude)
  fixedPlaces places units ++ exponentText (point - 1)

/-- A coordinate: six places below a million, without a sign when it rounds to zero, and ten
digits with an exponent from there on. -/
def coordinateText (x : Float) : String :=
  String.ofList <| match classify x with
    | .notANumber => "nan".toList
    | .infinite => signed (isNegative x) "inf".toList
    | .finite b =>
      if 1000000 * b.ratio.bottom ≤ b.ratio.top then signed (isNegative x) (b.scientific 9)
      else
        let units := (b.ratio.scale 10 6).round
        signed (isNegative x && units != 0) (fixedPlaces 6 units)

end Sketch.Decimal
