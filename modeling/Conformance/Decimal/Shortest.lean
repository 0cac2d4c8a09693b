import Conformance.Double
/-!
The shortest decimal number that reads back as a given double. The decimals that read back are
those between the midpoints to the two neighbouring doubles; for one digit, two digits and so on
the value's own two neighbours on that decimal grid are tried, in exact arithmetic, and the first
grid with a hit wins.
-/

namespace Conformance

/-- A positive decimal number: the digits `d₁ d₂ … dₙ` stand for `0.d₁d₂…dₙ × 10 ^ point`. -/
structure Decimal where
  digits : List Nat
  point : Int
  deriving DecidableEq, Repr

/-- Which of two equally near decimals is written. -/
inductive DecimalTie where
  | even
  | up
  deriving DecidableEq, Repr

namespace Decimal

/-- The decimal digits of a number, the most significant first; zero has none. -/
def digitsOf (number : Nat) : List Nat :=
  if number = 0 then []
  else (Nat.toDigits 10 number).map (fun digit => digit.toNat - 48)

/-- The decimals that read back as one double, in quarters of a unit. -/
structure Interval where
  low : Nat
  centre : Nat
  high : Nat
  closed : Bool
  deriving DecidableEq, Repr

namespace Interval

/-- Half a step on either side of a double; the step below a power of two is half as long. The
ends belong to the doubles with an even significand. -/
def ofDouble (double : Double) : Interval :=
  let step := Nat.pow 2 double.shift
  let below := if double.fraction = 0#52 ∧ 0 < double.shift then step else 2 * step
  { low := 4 * double.magnitude - below
    centre := 4 * double.magnitude
    high := 4 * double.magnitude + 2 * step
    closed := double.significand % 2 == 0 }

/-- Whether `multiple` steps of a grid lie in the interval. A step is `step / scale` quarters. -/
def holds (interval : Interval) (step scale multiple : Nat) : Bool :=
  let place := multiple * step
  if interval.closed then
    decide (interval.low * scale ≤ place ∧ place ≤ interval.high * scale)
  else
    decide (interval.low * scale < place ∧ place < interval.high * scale)

/-- The multiple of a grid's step that is written, when one lies in the interval. -/
def multiple? (interval : Interval) (tie : DecimalTie) (step scale : Nat) : Option Nat :=
  let lower := interval.centre * scale / step
  let upper := lower + 1
  match interval.holds step scale lower, interval.holds step scale upper with
  | false, false => none
  | true, false => some lower
  | false, true => some upper
  | true, true =>
    let doubled := 2 * (interval.centre * scale)
    let middle := (lower + upper) * step
    if doubled < middle then some lower
    else if middle < doubled then some upper
    else match tie with
      | .up => some upper
      | .even => some (if lower % 2 = 0 then lower else upper)

end Interval

/-- Where the decimal point of a positive double stands: `10 ^ (point - 1) ≤ value < 10 ^ point`. -/
def pointOf (double : Double) : Int :=
  ((digitsOf (double.magnitude * Nat.pow 10 400 / Double.unitsPerOne)).length : Int) - 400

/-- The quarters of a unit in one. -/
def quartersPerOne : Nat := 4 * Double.unitsPerOne

/-- The decimal with `count` digits at most that reads back as the double, if there is one. -/
def withDigits? (tie : DecimalTie) (double : Double) (count : Nat) : Option Decimal :=
  let power := pointOf double - count
  let step := quartersPerOne * Nat.pow 10 power.toNat
  let scale := Nat.pow 10 (-power).toNat
  ((Interval.ofDouble double).multiple? tie step scale).map fun multiple =>
    let digits := digitsOf multiple
    { digits := (digits.reverse.dropWhile (· == 0)).reverse
      point := digits.length + power }

/-- The shortest decimal that reads back as a finite double other than zero, its sign set aside;
seventeen digits always suffice. -/
def shortest (tie : DecimalTie) (double : Double) : Decimal :=
  ((List.range' 1 17).findSome? (withDigits? tie double)).getD ⟨[], 0⟩

end Decimal

end Conformance
