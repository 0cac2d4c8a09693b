/-!
Double-precision binary numbers, with every operation defined on exact integers. A finite double
is a whole number of units of `2 ^ -1074`, the least positive double; comparison, truncation and
rounding are statements about that whole number. Rounding a rational to a double happens in one
place, `Double.nearest`.
-/

namespace Conformance

/-- A double: its sign, its biased exponent and its fraction. -/
structure Double where
  negative : Bool
  exponent : BitVec 11
  fraction : BitVec 52
  deriving DecidableEq, Repr

namespace Double

/-- The largest exponent marks infinities and the values that are no number. -/
def isSpecial (double : Double) : Bool := double.exponent == BitVec.allOnes 11

def isNaN (double : Double) : Bool := double.isSpecial && double.fraction != 0#52

def isInfinite (double : Double) : Bool := double.isSpecial && double.fraction == 0#52

def isFinite (double : Double) : Bool := !double.isSpecial

def infinity (negative : Bool) : Double := ⟨negative, BitVec.allOnes 11, 0#52⟩

def nan (negative : Bool) : Double := ⟨negative, BitVec.allOnes 11, 1#52 <<< 51⟩

def zero (negative : Bool) : Double := ⟨negative, 0#11, 0#52⟩

/-- The fraction with its leading one, which subnormal numbers lack. -/
def significand (double : Double) : Nat :=
  if double.exponent = 0#11 then double.fraction.toNat else Nat.pow 2 52 + double.fraction.toNat

/-- The power of two by which the significand is scaled, counted from the least one. -/
def shift (double : Double) : Nat := double.exponent.toNat - 1

/-- How many units lie in one. -/
def unitsPerOne : Nat := Nat.pow 2 1074

/-- The magnitude of a finite double, in units. -/
def magnitude (double : Double) : Nat := double.significand * Nat.pow 2 double.shift

/-- A finite double in units, with its sign; both zeros give `0`. -/
def units (double : Double) : Int :=
  if double.negative then -(double.magnitude : Int) else (double.magnitude : Int)

/-- The sixty-four bits of a double, read as a number. -/
def word (double : Double) : Nat :=
  (if double.negative then Nat.pow 2 63 else 0) + double.exponent.toNat * Nat.pow 2 52 +
    double.fraction.toNat

/-- The double with a given sign whose exponent and fraction, written one after the other, are
`code`. Codes beyond the infinite one are infinite too. -/
def ofCode (negative : Bool) (code : Nat) : Double :=
  if 2047 * Nat.pow 2 52 ≤ code then infinity negative
  else
    ⟨negative, BitVec.ofNat 11 (code / Nat.pow 2 52), BitVec.ofNat 52 (code % Nat.pow 2 52)⟩

/-- The whole number nearest to `numerator / denominator`; a tie goes to the even neighbour. -/
def roundHalfEven (numerator denominator : Nat) : Nat :=
  let floor := numerator / denominator
  let rest := numerator % denominator
  if 2 * rest < denominator then floor
  else if denominator < 2 * rest then floor + 1
  else floor + floor % 2

/-- The double nearest to the rational `numerator / denominator`; a tie goes to the even
significand, and what lies beyond the largest double by half a step is infinite. -/
def nearest (negative : Bool) (numerator denominator : Nat) : Double :=
  let scaled := numerator * unitsPerOne
  let shift := Nat.log2 (scaled / denominator) - 52
  ofCode negative (shift * Nat.pow 2 52 + roundHalfEven scaled (denominator * Nat.pow 2 shift))

/-- The double nearest to a whole number. -/
def ofInt (whole : Int) : Double := nearest (decide (whole < 0)) whole.natAbs 1

/-- Numerical equality: no value equals one that is no number, and both zeros are equal. -/
def equal (left right : Double) : Bool :=
  if left.isNaN || right.isNaN then false
  else if left.isFinite && right.isFinite then left.units == right.units
  else left == right

/-- Numerical order. -/
def less (left right : Double) : Bool :=
  if left.isNaN || right.isNaN then false
  else if left.isInfinite then left.negative && left != right
  else if right.isInfinite then !right.negative
  else decide (left.units < right.units)

/-- The order of two doubles, when both are numbers. -/
def compare? (left right : Double) : Option Ordering :=
  if left.isNaN || right.isNaN then none
  else if left.less right then some .lt
  else if left.equal right then some .eq
  else some .gt

/-- Whether a double is a whole number. -/
def isIntegral (double : Double) : Bool :=
  double.isFinite && double.magnitude % unitsPerOne == 0

/-- The integer part, with the sign kept. -/
def truncated (double : Double) : Int := double.units.tdiv unitsPerOne

/-- The greatest integer that is not above a finite double. -/
def floor (double : Double) : Int := double.units.fdiv unitsPerOne

/-- The least integer that is not below a finite double. -/
def ceiling (double : Double) : Int := -((-double.units).fdiv unitsPerOne)

/-- The nearest integer in units; a tie goes away from zero. -/
def roundedMagnitude (double : Double) : Nat :=
  (double.magnitude + unitsPerOne / 2) / unitsPerOne * unitsPerOne

/-- The quotient of two finite doubles, of which the second is not zero. -/
def quotient (left right : Double) : Double :=
  nearest (left.negative != right.negative) left.magnitude right.magnitude

/-- Whether a finite double differs from the nearest integer by no more than its own magnitude,
taken as at least one, times `2 ^ -52`. -/
def isNearlyIntegral (double : Double) : Bool :=
  let distance := ((double.magnitude : Int) - double.roundedMagnitude).natAbs
  decide (distance * Nat.pow 2 52 ≤ max double.magnitude unitsPerOne)

theorem isFinite_zero (negative : Bool) : (zero negative).isFinite = true := by
  cases negative <;> rfl

theorem units_zero (negative : Bool) : (zero negative).units = 0 := by
  cases negative <;> rfl

end Double

end Conformance
