import Conformance.Decimal.Layout
import Conformance.Decimal.Reading
/-!
Numbers: exact integers of sixty-four bits, and doubles for everything else. The integer readings
of a double (`integer?`, `truncate?`, `floor`, `ceiling`) come from its exact value; comparison of
an integer with a double first rounds the integer to a double.
-/

namespace Conformance

/-- A number: an integer in the range of `Int64`, or a double. -/
inductive Number where
  | int (value : Int64)
  | float (value : Double)
  deriving DecidableEq, Repr

namespace Number

/-- Beyond this magnitude not every integer is a double. -/
def exactLimit : Nat := Nat.pow 2 53

/-- A whole number as an integer if it fits, else as the nearest double. -/
def ofWhole (whole : Int) : Number :=
  if Int64.minValue.toInt ≤ whole ∧ whole ≤ Int64.maxValue.toInt then .int (Int64.ofInt whole)
  else .float (Double.ofInt whole)

def isInteger : Number → Bool
  | .int _ => true
  | .float _ => false

/-- The nearest double. -/
def toDouble : Number → Double
  | .int value => Double.ofInt value.toInt
  | .float value => value

/-- Whether a double's magnitude is at most `exactLimit`. -/
def isExactRange (double : Double) : Bool :=
  double.isFinite && decide (double.magnitude ≤ exactLimit * Double.unitsPerOne)

/-- The integer that a number is, for doubles only up to `exactLimit`. -/
def integer? : Number → Option Int64
  | .int value => some value
  | .float value =>
    if isExactRange value && value.isIntegral then some (Int64.ofInt value.truncated) else none

/-- The number as an integer that is not negative. -/
def natural? (number : Number) : Option Nat :=
  number.integer?.bind fun value => if 0 ≤ value.toInt then some value.toInt.toNat else none

def isZero : Number → Bool
  | .int value => value == 0
  | .float value => value.isFinite && value.magnitude == 0

/-- Equality of integers is exact; any other pair is compared as doubles. -/
def equal : Number → Number → Bool
  | .int left, .int right => left == right
  | left, right => left.toDouble.equal right.toDouble

/-- The order of two numbers, if neither is the double that is no number. -/
def compare? : Number → Number → Option Ordering
  | .int left, .int right => some (compare left.toInt right.toInt)
  | left, right => left.toDouble.compare? right.toDouble

def isAtMost (left right : Number) : Bool :=
  match left.compare? right with
  | some .lt | some .eq => true
  | _ => false

def isBelow (left right : Number) : Bool := left.compare? right == some .lt

/-- Whether a number's double is above zero. -/
def isPositive (number : Number) : Bool := (Double.zero false).less number.toDouble

/-- Whether a number is a multiple of a divisor. Integers divide exactly; with a double the
quotient has to be an integer up to the rounding of one division. Nothing is a multiple of zero. -/
def isMultipleOf (number divisor : Number) : Bool :=
  if divisor.isZero then false
  else match number, divisor with
    | .int left, .int right => left.toInt.tmod right.toInt == 0
    | _, _ =>
      let left := number.toDouble
      let right := divisor.toDouble
      if !left.isFinite || right.isNaN then false
      else if right.isInfinite then true
      else
        let quotient := left.quotient right
        quotient.isFinite && quotient.isNearlyIntegral

/-- An integer held within the range of `Int64`. -/
def saturate (whole : Int) : Int64 :=
  Int64.ofInt (min (max whole Int64.minValue.toInt) Int64.maxValue.toInt)

/-- The integer part. It exists up to a magnitude of `2 ^ 63`, whose positive end is held at the
greatest integer. -/
def truncate? : Number → Option Number
  | .int value => some (.int value)
  | .float value =>
    if value.isFinite && decide (value.truncated.natAbs ≤ Nat.pow 2 63) then
      some (.int (saturate value.truncated))
    else none

/-- The greatest integer that is not above the number; large doubles are integers already. -/
def floor : Number → Number
  | .int value => .int value
  | .float value =>
    if isExactRange value then .int (Int64.ofInt value.floor) else .float value

/-- The least integer that is not below the number; large doubles are integers already. -/
def ceiling : Number → Number
  | .int value => .int value
  | .float value =>
    if isExactRange value then .int (Int64.ofInt value.ceiling) else .float value

/-- The sixty-four bits that stand for a number in a hash: the integer it is, or else the bits of
the double. -/
def word (number : Number) : Nat :=
  match number.integer? with
  | some value => value.toBitVec.toNat
  | none => number.toDouble.word

/-- Numbers in messages: never an exponent, and no point in whole numbers. -/
def plainFloat : FloatText :=
  { tie := .up
    positionalPoints := none
    keepPoint := false
    nan := "NaN"
    infinite := "inf"
    negativeInfinite := "-inf" }

def text : Number → String
  | .int value => toString value.toInt
  | .float value => plainFloat.write value

/-- What is said of a number without an integer part in range. -/
def notWhole (number : Number) : String := number.text ++ " cannot be represented as an integer"

/-- Why a text is not a number. -/
inductive TextError where
  | empty
  | malformed (text : String)
  deriving DecidableEq, Repr

/-- Reads an integer that fits, with an optional sign. -/
def readInteger? (text : String) : Option Int64 :=
  let (negative, digits) := match text.toList with
    | '-' :: digits => (true, digits)
    | '+' :: digits => (false, digits)
    | digits => (false, digits)
  if digits.isEmpty || !digits.all Char.isDigit then none
  else
    let whole : Int := if negative then -(digitsValue digits : Int) else digitsValue digits
    if Int64.minValue.toInt ≤ whole ∧ whole ≤ Int64.maxValue.toInt then some (Int64.ofInt whole)
    else none

/-- Reads a number: an integer if the text is one that fits, else a double. -/
def ofText (text : String) : Except TextError Number :=
  match readInteger? text with
  | some value => .ok (.int value)
  | none =>
    match Double.ofText? text with
    | some value => .ok (.float value)
    | none => .error (if text.isEmpty then .empty else .malformed text)

def TextError.message : TextError → String
  | .empty => "`` is not a number: cannot parse float from empty string"
  | .malformed text => "`" ++ text ++ "` is not a number: invalid float literal"

end Number

end Conformance
