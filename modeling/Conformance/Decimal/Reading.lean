import Conformance.Double
/-!
Reading decimal text as a double. `Double.ofDecimal` rounds a decimal number once and exactly;
`Double.ofText?` reads a sign, digits with an optional point, and an optional exponent, or the
name of an infinity or of the value that is no number.
-/

namespace Conformance

/-- Splits off the decimal digits at the front of a text. -/
def takeDigits (text : List Char) : List Char × List Char :=
  (text.takeWhile Char.isDigit, text.dropWhile Char.isDigit)

/-- The number that decimal digits spell. -/
def digitsValue (digits : List Char) : Nat :=
  digits.foldl (fun total digit => total * 10 + (digit.toNat - 48)) 0

namespace Double

/-- The double nearest to `significand × 10 ^ exponent`. Exponents beyond the range of doubles are
decided without computing the power. -/
def ofDecimal (negative : Bool) (significand : Nat) (exponent : Int) : Double :=
  let point := ((Nat.toDigits 10 significand).length : Int) + exponent
  if significand = 0 then zero negative
  else if 310 < point then infinity negative
  else if point < -330 then zero negative
  else nearest negative (significand * Nat.pow 10 exponent.toNat) (Nat.pow 10 (-exponent).toNat)

/-- The exponent of a decimal number: nothing, or a letter, an optional sign and digits. -/
def readExponent? : List Char → Option Int
  | [] => some 0
  | mark :: text =>
    if mark = 'e' ∨ mark = 'E' then
      let (negative, digits) := match text with
        | '-' :: digits => (true, digits)
        | '+' :: digits => (false, digits)
        | digits => (false, digits)
      if digits.isEmpty || !digits.all Char.isDigit then none
      else some (if negative then -(digitsValue digits : Int) else digitsValue digits)
    else none

/-- An unsigned decimal number; digits are needed on one side of the point at least. -/
def readUnsigned? (negative : Bool) (text : List Char) : Option Double :=
  let (whole, rest) := takeDigits text
  let (fraction, rest) := match rest with
    | '.' :: rest => takeDigits rest
    | rest => ([], rest)
  if whole.isEmpty && fraction.isEmpty then none
  else (readExponent? rest).map fun exponent =>
    ofDecimal negative (digitsValue (whole ++ fraction)) (exponent - fraction.length)

/-- An infinity or the value that is no number, by name, in any case of letters. -/
def readNamed? (negative : Bool) (text : List Char) : Option Double :=
  let name := text.map Char.toLower
  if name = "inf".toList ∨ name = "infinity".toList then some (infinity negative)
  else if name = "nan".toList then some (nan negative)
  else none

/-- Reads a decimal number or one of the names, with an optional sign. -/
def ofText? (text : String) : Option Double :=
  let (negative, unsigned) := match text.toList with
    | '-' :: unsigned => (true, unsigned)
    | '+' :: unsigned => (false, unsigned)
    | unsigned => (false, unsigned)
  (readUnsigned? negative unsigned).orElse (fun _ => readNamed? negative unsigned)

end Double

end Conformance
