import Conformance.Decimal.Shortest
/-!
The two layouts in which a decimal is written, positional and scientific, and the choice between
them. A `FloatText` record states one way of writing doubles; it decides every spelling that the
value itself leaves open.
-/

namespace Conformance

namespace Decimal

/-- Digits as text. -/
def digitText (digits : List Nat) : List Char :=
  digits.map (fun digit => Char.ofNat (digit + 48))

/-- The positional layout: whole part, point, fraction. Without `keepPoint` a whole number has no
point; with it one zero stands behind the point. -/
def positional (keepPoint : Bool) (decimal : Decimal) : List Char :=
  let digits := digitText decimal.digits
  let whole := decimal.point.toNat
  if decimal.point ≤ 0 then
    '0' :: '.' :: (List.replicate (-decimal.point).toNat '0' ++ digits)
  else if digits.length ≤ whole then
    digits ++ List.replicate (whole - digits.length) '0' ++ (if keepPoint then ['.', '0'] else [])
  else
    digits.take whole ++ '.' :: digits.drop whole

/-- The scientific layout: one digit, the others behind a point, and a signed exponent. -/
def scientific (decimal : Decimal) : List Char :=
  let exponent := decimal.point - 1
  let mantissa := match digitText decimal.digits with
    | [] => []
    | [digit] => [digit]
    | digit :: rest => digit :: '.' :: rest
  mantissa ++ 'e' :: (if exponent < 0 then '-' else '+') :: (toString exponent.natAbs).toList

end Decimal

/-- One way of writing doubles. -/
structure FloatText where
  /-- What is written of two equally near decimals. -/
  tie : DecimalTie
  /-- The places of the point for which the layout is positional; without bounds it always is. -/
  positionalPoints : Option (Int × Int)
  /-- Whether whole numbers keep a point and a zero. -/
  keepPoint : Bool
  nan : String
  infinite : String
  negativeInfinite : String

namespace FloatText

/-- Whether a point at this place is written positionally. -/
def isPositional (form : FloatText) (point : Int) : Bool :=
  match form.positionalPoints with
  | none => true
  | some (least, greatest) => decide (least ≤ point ∧ point ≤ greatest)

/-- The text of the magnitude of a finite double. -/
def magnitude (form : FloatText) (double : Double) : List Char :=
  if double.magnitude = 0 then
    if form.keepPoint then ['0', '.', '0'] else ['0']
  else
    let decimal := Decimal.shortest form.tie double
    if form.isPositional decimal.point then decimal.positional form.keepPoint
    else decimal.scientific

def write (form : FloatText) (double : Double) : String :=
  if double.isNaN then form.nan
  else if double.isInfinite then
    if double.negative then form.negativeInfinite else form.infinite
  else
    String.ofList ((if double.negative then ['-'] else []) ++ form.magnitude double)

end FloatText

end Conformance
