/-!
Punycode: a text as its characters of ASCII, followed by differences that say which other
characters go between them and where. A difference is a number of base 36 with its least digit
first; how large a digit must be for another to follow depends on the differences before it.
-/

namespace Conformance.Format.Punycode

/-- The value of a digit: letters, then the digits of decimal numbers. -/
def digitValue? (char : Char) : Option Nat :=
  if char.isDigit then some (char.toNat - '0'.toNat + 26)
  else if char.isAlpha then some (char.toLower.toNat - 'a'.toNat)
  else none

/-- The least digit at a place that is followed by another. -/
def threshold (place bias : Nat) : Nat :=
  if place ≤ bias then 1 else if bias + 26 ≤ place then 26 else place - bias

/-- Divides a difference by 35 until it is small, and counts the places. -/
def scaledDown (difference places : Nat) : Nat × Nat :=
  if 455 < difference then scaledDown (difference / 35) (places + 36) else (difference, places)
termination_by difference
decreasing_by exact Nat.div_lt_self (by omega) (by omega)

/-- The bias behind a difference, which made a text of `count` characters. -/
def nextBias (difference count : Nat) (isFirst : Bool) : Nat :=
  let halved := if isFirst then difference / 700 else difference / 2
  let (rest, places) := scaledDown (halved + halved / count) 0
  places + 36 * rest / (rest + 38)

/-- A text that is being decoded. -/
structure Decoding where
  text : List Char
  /-- The character put in last. -/
  point : Nat
  /-- The first place at which this character may be put in again. -/
  place : Nat
  bias : Nat
  /-- The value of the digits of the difference that is being read. -/
  difference : Nat
  /-- The weight of its next digit. -/
  weight : Nat
  /-- The place of its next digit. -/
  digit : Nat

namespace Decoding

/-- The characters of ASCII, into which others go. -/
def start (text : List Char) : Decoding := ⟨text, 128, 0, 72, 0, 1, 36⟩

/-- Whether no difference is being read. -/
def isBetween (decoding : Decoding) : Bool := decoding.digit == 36

/-- Puts in the character that a whole difference means. -/
def put? (decoding : Decoding) (difference : Nat) : Option Decoding :=
  let count := decoding.text.length + 1
  let point := decoding.point + (decoding.place + difference) / count
  let place := (decoding.place + difference) % count
  if point.isValidChar then
    some ⟨decoding.text.insertIdx place (Char.ofNat point), point, place + 1,
      nextBias difference count (decoding.place == 0), 0, 1, 36⟩
  else none

/-- Reads a digit. -/
def feed? (decoding : Decoding) (char : Char) : Option Decoding :=
  (digitValue? char).bind fun value =>
    let difference := decoding.difference + value * decoding.weight
    let least := threshold decoding.digit decoding.bias
    if value < least then decoding.put? difference
    else
      some { decoding with
        difference := difference
        weight := decoding.weight * (36 - least)
        digit := decoding.digit + 36 }

end Decoding

/-- The text in front of the last hyphen, and what stands behind it. A hyphen at the start is no
such hyphen. -/
def splitBasic (text : List Char) : List Char × List Char :=
  let digits := (text.reverse.takeWhile (· != '-')).reverse
  let basic := text.take (text.length - digits.length - 1)
  if basic.isEmpty then ([], text) else (basic, digits)

/-- The text that a code stands for. -/
def decode? (code : List Char) : Option (List Char) :=
  let (basic, digits) := splitBasic code
  if basic.all (fun char => char.toNat < 128) then
    match digits.foldlM Decoding.feed? (.start basic) with
    | some decoding => if decoding.isBetween then some decoding.text else none
    | none => none
  else none

end Conformance.Format.Punycode
