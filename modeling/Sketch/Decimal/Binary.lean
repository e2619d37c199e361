/-! Doubles and decimals. A finite double is a whole number times a power of two, and every question
about its decimal text is asked of that pair in exact arithmetic; a decimal is read as the double
nearest to it. -/
namespace Sketch.Decimal

/-- The number `mantissa · 2 ^ exponent`. -/
structure Binary where
  mantissa : Nat
  exponent : Int
  deriving Repr, DecidableEq

inductive Class where
  | finite (magnitude : Binary)
  | infinite
  | notANumber
  deriving Repr, DecidableEq

def isNegative (x : Float) : Bool :=
  x.toBits >>> 63 == 1

/-- The leading bit of a mantissa of full length, which is not stored. -/
def leadingBit : Nat := 0x10000000000000

def classify (x : Float) : Class :=
  let fraction := (x.toBits &&& 0xFFFFFFFFFFFFF).toNat
  let biased := ((x.toBits >>> 52) &&& 0x7FF).toNat
  if biased = 0x7FF then if fraction = 0 then .infinite else .notANumber
  else if biased = 0 then .finite ⟨fraction, -1074⟩
  else .finite ⟨fraction + leadingBit, biased - 1075⟩

/-- A positive fraction. -/
structure Ratio where
  top : Nat
  bottom : Nat
  deriving Repr, DecidableEq

def Ratio.scale (r : Ratio) (base : Nat) (power : Int) : Ratio :=
  ⟨r.top * base.pow power.toNat, r.bottom * base.pow (-power).toNat⟩

def Binary.ratio (b : Binary) : Ratio :=
  (Ratio.mk b.mantissa 1).scale 2 b.exponent

/-- The nearest whole number; a half goes to the even neighbour. -/
def Ratio.round (r : Ratio) : Nat :=
  let whole := r.top / r.bottom
  let twice := 2 * (r.top % r.bottom)
  if twice < r.bottom then whole
  else if r.bottom < twice then whole + 1
  else whole + whole % 2

def digitCount (n : Nat) : Nat :=
  (Nat.toDigits 10 n).length

/-- The `k` with `10 ^ (k - 1) ≤ r < 10 ^ k`, for a positive ratio. -/
def Ratio.magnitude (r : Ratio) : Int :=
  if r.bottom ≤ r.top then digitCount (r.top / r.bottom)
  else 1 - digitCount ((r.bottom - 1) / r.top)

/-- The double nearest to `coefficient · 10 ^ exponent`, ties to even; too large a number is
infinite, too small a one is zero. Exponents beyond what a double can hold are cut off first. -/
def nearest (coefficient : Nat) (exponent : Int) : Float :=
  let magnitude := exponent + (Nat.toDigits 10 coefficient).length
  if coefficient = 0 || magnitude < -400 then 0
  else if 400 < magnitude then 1 / 0
  else Float.ofScientific coefficient (exponent < 0) exponent.natAbs

def withSign (negative : Bool) (x : Float) : Float :=
  if negative then -x else x

end Sketch.Decimal
