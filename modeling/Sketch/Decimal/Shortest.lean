import Sketch.Decimal.Binary

/-! The fewest decimal digits that still single out a double: of all decimals that round to it
those with the fewest digits, and of these the nearest. -/
namespace Sketch.Decimal

structure Digits where
  coefficient : Nat
  exponent : Int
  deriving Repr, DecidableEq

/-- The decimals that round to a double, as quarters of the last binary place: those between
`low` and `high`, the ends included for an even mantissa. -/
structure Interval where
  low : Nat
  value : Nat
  high : Nat
  closed : Bool
  deriving Repr, DecidableEq

def Binary.interval (b : Binary) : Interval where
  low := 4 * b.mantissa - (if b.mantissa = leadingBit && b.exponent > -1074 then 1 else 2)
  value := 4 * b.mantissa
  high := 4 * b.mantissa + 2
  closed := b.mantissa % 2 == 0

def Interval.holds (i : Interval) (unit : Ratio) (n : Nat) : Bool :=
  let point := n * unit.bottom
  if i.closed then i.low * unit.top ≤ point && point ≤ i.high * unit.top
  else i.low * unit.top < point && point < i.high * unit.top

/-- The neighbour of the value on a decimal grid that lies in the interval, the nearer one if both do,
and the even one if both are as near. A quarter of the last binary place is `unit` grid steps. -/
def Interval.pick? (i : Interval) (unit : Ratio) : Option Nat :=
  let below := i.value * unit.top / unit.bottom
  match i.holds unit below, i.holds unit (below + 1) with
  | true, true => some (Ratio.mk (i.value * unit.top) unit.bottom).round
  | true, false => some below
  | false, true => some (below + 1)
  | false, false => none

def Binary.shortestFrom (b : Binary) (magnitude : Int) (count : Nat) : Nat → Digits
  | 0 => ⟨(b.ratio.scale 10 (count - magnitude)).round, magnitude - count⟩
  | more + 1 =>
    let unit := ((Ratio.mk 1 4).scale 2 b.exponent).scale 10 (count - magnitude)
    match b.interval.pick? unit with
    | some n => ⟨n, magnitude - count⟩
    | none => b.shortestFrom magnitude (count + 1) more

/-- The shortest decimal that reads back as a positive double; seventeen digits always do. -/
def Binary.shortest (b : Binary) : Digits :=
  b.shortestFrom b.ratio.magnitude 1 17

end Sketch.Decimal
