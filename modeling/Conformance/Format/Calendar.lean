import Conformance.Pattern
/-!
Formats of the calendar and the clock: dates, times of day with an offset, and both together.
-/

namespace Conformance.Format

def isLeapYear (year : Int) : Bool :=
  year % 4 == 0 && (year % 100 != 0 || year % 400 == 0)

/-- The length of a month; there are no months but the first to the twelfth. -/
def daysInMonth (year : Int) (month : Nat) : Nat :=
  match month with
  | 1 | 3 | 5 | 7 | 8 | 10 | 12 => 31
  | 4 | 6 | 9 | 11 => 30
  | 2 => if isLeapYear year then 29 else 28
  | _ => 0

def isDay (year : Int) (month day : Nat) : Bool :=
  decide (1 ≤ day ∧ day ≤ daysInMonth year month)

/-- Reads one to `most` digits. -/
def readNumber? (most : Nat) (text : List Char) : Option (Nat × List Char) :=
  let digits := (text.takeWhile Char.isDigit).take most
  if digits.isEmpty then none else some (digitsValue digits, text.drop digits.length)

/-- Reads exactly `count` digits. -/
def readFixed? (count : Nat) (text : List Char) : Option (Nat × List Char) :=
  let digits := text.take count
  if digits.length = count && digits.all Char.isDigit then
    some (digitsValue digits, text.drop count)
  else none

/-- Reads one given character. -/
def readChar? (char : Char) : List Char → Option (List Char)
  | [] => none
  | first :: rest => if first = char then some rest else none

/-- The years that a calendar date may have. -/
def isYear (year : Int) : Bool := decide (-262143 ≤ year ∧ year ≤ 262142)

def dropBlanks (text : List Char) : List Char := text.dropWhile Text.isBlank

/-- Reads a year: up to four digits, or a sign and any number of digits. -/
def readYear? (text : List Char) : Option (Int × List Char) :=
  match dropBlanks text with
  | '-' :: rest =>
    (readNumber? rest.length rest).map fun (year, rest) => (-(year : Int), rest)
  | '+' :: rest =>
    (readNumber? rest.length rest).map fun (year, rest) => ((year : Int), rest)
  | rest => (readNumber? 4 rest).map fun (year, rest) => ((year : Int), rest)

/-- A calendar date: year, month and day with hyphens between them. Blanks may stand in front of
each number. -/
def isDate (text : String) : Bool :=
  ((do
    let (year, rest) ← readYear? (Text.trimChars text.toList)
    let rest ← readChar? '-' rest
    let (month, rest) ← readNumber? 2 (dropBlanks rest)
    let rest ← readChar? '-' rest
    let (day, rest) ← readNumber? 2 (dropBlanks rest)
    pure (isYear year && isDay year month day && rest.isEmpty)) : Option Bool).getD false

/-- Reads the fraction of a second, where a point begins one. -/
def readFraction? : List Char → Option (List Char)
  | '.' :: rest =>
    if (rest.takeWhile Char.isDigit).isEmpty then none else some (rest.dropWhile Char.isDigit)
  | rest => some rest

/-- Reads an offset from universal time: the letter of zero offset, or a sign, hours and minutes
with a colon. An offset is less than a day. -/
def readOffset? : List Char → Option (List Char)
  | [] => none
  | sign :: rest =>
    if sign = 'Z' ∨ sign = 'z' then some rest
    else if sign = '+' ∨ sign = '-' ∨ sign = '\u2212' then do
      let (hours, rest) ← readFixed? 2 rest
      let rest ← readChar? ':' rest
      let (minutes, rest) ← readFixed? 2 rest
      if hours < 24 ∧ minutes < 60 then some rest else none
    else none

/-- Reads the mark between a date and a time. -/
def readDivider? : List Char → Option (List Char)
  | 'T' :: rest => some rest
  | 't' :: rest => some rest
  | ' ' :: rest => some rest
  | _ => none

/-- A date, a time of day and an offset, each number with all its digits. A minute may have a leap
second. -/
def isDateTime (text : String) : Bool :=
  ((do
    let (year, rest) ← readFixed? 4 (Text.trimChars text.toList)
    let rest ← readChar? '-' rest
    let (month, rest) ← readFixed? 2 rest
    let rest ← readChar? '-' rest
    let (day, rest) ← readFixed? 2 rest
    let rest ← readDivider? rest
    let (hour, rest) ← readFixed? 2 rest
    let rest ← readChar? ':' rest
    let (minute, rest) ← readFixed? 2 rest
    let rest ← readChar? ':' rest
    let (second, rest) ← readFixed? 2 rest
    let rest ← readFraction? rest
    let rest ← readOffset? rest
    pure (isDay year month day && decide (hour < 24 ∧ minute < 60 ∧ second ≤ 60) &&
      rest.isEmpty)) : Option Bool).getD false

/-- The shape of a time of day with an offset. -/
def timeShape : String := "^\\s*(\\d\\d):(\\d\\d):(\\d\\d)(\\.\\d+)?([zZ]|[-+]\\d\\d:?\\d\\d)\\s*$"

/-- Whether a text has the shape that a pattern states. -/
def hasShape (shape text : String) : Bool :=
  match Pattern.ofSource shape with
  | .ok pattern => pattern.isMatch text
  | .error _ => false

/-- A time of day with an offset. The digits of the time itself are those of ASCII. -/
def isTime (text : String) : Bool :=
  hasShape timeShape text &&
    ((do
      let (hour, rest) ← readFixed? 2 (dropBlanks text.toList)
      let rest ← readChar? ':' rest
      let (minute, rest) ← readFixed? 2 rest
      let rest ← readChar? ':' rest
      let (second, _) ← readFixed? 2 rest
      pure (decide (hour < 24 ∧ minute < 60 ∧ second ≤ 60))) : Option Bool).getD false

end Conformance.Format
