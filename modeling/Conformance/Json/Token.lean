import Conformance.Value
/-!
The tokens of JSON text. `Token.next?` reads one token after optional blanks and gives the rest of
the text; `Token.scan?` reads a whole text.
-/

namespace Conformance.Json

/-- A number as it was written: without fraction and exponent, or with them. -/
inductive Numeral where
  | whole (value : Int)
  | decimal (value : Double)
  deriving DecidableEq, Repr

/-- The number that a numeral stands for. -/
def Numeral.number : Numeral → Number
  | .whole value => Number.ofWhole value
  | .decimal value => .float value

/-- A token of JSON text. -/
inductive Token where
  | openArray
  | closeArray
  | openObject
  | closeObject
  | comma
  | colon
  | null
  | bool (value : Bool)
  | number (numeral : Numeral)
  | string (value : String)
  deriving DecidableEq, Repr

/-- The four blanks of JSON. -/
def isBlank (char : Char) : Bool :=
  char == ' ' || char == '\n' || char == '\t' || char == '\r'

def skipBlanks (text : List Char) : List Char := text.dropWhile isBlank

def hexValue? (char : Char) : Option Nat :=
  if '0' ≤ char ∧ char ≤ '9' then some (char.toNat - 48)
  else if 'a' ≤ char ∧ char ≤ 'f' then some (char.toNat - 87)
  else if 'A' ≤ char ∧ char ≤ 'F' then some (char.toNat - 55)
  else none

/-- The number that four hexadecimal digits spell. -/
def hexUnit? (first second third fourth : Char) : Option Nat := do
  let first ← hexValue? first
  let second ← hexValue? second
  let third ← hexValue? third
  let fourth ← hexValue? fourth
  pure (first * 4096 + second * 256 + third * 16 + fourth)

def isHighSurrogate (unit : Nat) : Bool := decide (0xD800 ≤ unit ∧ unit < 0xDC00)

def isLowSurrogate (unit : Nat) : Bool := decide (0xDC00 ≤ unit ∧ unit < 0xE000)

/-- The character that a surrogate pair stands for. -/
def joinSurrogates (high low : Nat) : Char :=
  Char.ofNat (0x10000 + (high - 0xD800) * 0x400 + (low - 0xDC00))

/-- The character behind a backslash, where one letter names it. -/
def unescape? (mark : Char) : Option Char :=
  match mark with
  | '"' => some '"'
  | '\\' => some '\\'
  | '/' => some '/'
  | 'b' => some '\x08'
  | 'f' => some '\x0c'
  | 'n' => some '\n'
  | 'r' => some '\r'
  | 't' => some '\t'
  | _ => none

/-- Puts a character in front of what was read. -/
def readThen (char : Char) :
    Option (List Char × List Char) → Option (List Char × List Char)
  | none => none
  | some (read, rest) => some (char :: read, rest)

/-- Reads the inside of a string up to its closing quote. Surrogate escapes come in pairs, and
control characters have to be escaped. -/
def readString? : List Char → Option (List Char × List Char)
  | [] => none
  | '"' :: rest => some ([], rest)
  | '\\' :: 'u' :: first :: second :: third :: fourth :: rest =>
    match hexUnit? first second third fourth with
    | none => none
    | some unit =>
      if isLowSurrogate unit then none
      else if isHighSurrogate unit then
        match rest with
        | '\\' :: 'u' :: first :: second :: third :: fourth :: rest =>
          match hexUnit? first second third fourth with
          | none => none
          | some low =>
            if isLowSurrogate low then readThen (joinSurrogates unit low) (readString? rest)
            else none
        | _ => none
      else readThen (Char.ofNat unit) (readString? rest)
  | '\\' :: mark :: rest =>
    match unescape? mark with
    | none => none
    | some char => readThen char (readString? rest)
  | char :: rest => if char.toNat < 32 then none else readThen char (readString? rest)

/-- The whole part of a number: a zero, or digits that do not begin with one. -/
def readWhole? (text : List Char) : Option (List Char × List Char) :=
  let (digits, rest) := takeDigits text
  match digits with
  | [] => none
  | '0' :: _ :: _ => none
  | digits => some (digits, rest)

/-- The fraction of a number, where a point begins one. -/
def readFraction? : List Char → Option (Option (List Char) × List Char)
  | '.' :: text =>
    let (digits, rest) := takeDigits text
    if digits.isEmpty then none else some (some digits, rest)
  | text => some (none, text)

/-- The exponent of a number, where a letter begins one. -/
def readExponent? : List Char → Option (Option Int × List Char)
  | [] => some (none, [])
  | mark :: text =>
    if mark = 'e' ∨ mark = 'E' then
      let (negative, text) := match text with
        | '-' :: text => (true, text)
        | '+' :: text => (false, text)
        | text => (false, text)
      let (digits, rest) := takeDigits text
      if digits.isEmpty then none
      else
        let size : Int := digitsValue digits
        some (some (if negative then -size else size), rest)
    else some (none, mark :: text)

/-- The numeral that a text spells. A minus sign in front of a mere zero makes a double. -/
def numeralOf (negative : Bool) (whole : List Char) (fraction : Option (List Char))
    (exponent : Option Int) : Numeral :=
  match fraction, exponent with
  | none, none =>
    let size : Int := digitsValue whole
    if negative && size == 0 then .decimal (Double.zero true)
    else .whole (if negative then -size else size)
  | _, _ =>
    let digits := fraction.getD []
    .decimal (Double.ofDecimal negative (digitsValue (whole ++ digits))
      (exponent.getD 0 - digits.length))

def isInfiniteNumber : Number → Bool
  | .int _ => false
  | .float value => value.isInfinite

/-- Reads a number; one beyond the range of doubles is refused. -/
def readNumber? (text : List Char) : Option (Numeral × List Char) := do
  let (negative, text) := match text with
    | '-' :: text => (true, text)
    | text => (false, text)
  let (whole, text) ← readWhole? text
  let (fraction, text) ← readFraction? text
  let (exponent, text) ← readExponent? text
  let numeral := numeralOf negative whole fraction exponent
  if isInfiniteNumber numeral.number then none else pure (numeral, text)

/-- Reads one token; blanks may stand in front of it. -/
def Token.next? (text : List Char) : Option (Token × List Char) :=
  match skipBlanks text with
  | '[' :: rest => some (.openArray, rest)
  | ']' :: rest => some (.closeArray, rest)
  | '{' :: rest => some (.openObject, rest)
  | '}' :: rest => some (.closeObject, rest)
  | ',' :: rest => some (.comma, rest)
  | ':' :: rest => some (.colon, rest)
  | 'n' :: 'u' :: 'l' :: 'l' :: rest => some (.null, rest)
  | 't' :: 'r' :: 'u' :: 'e' :: rest => some (.bool true, rest)
  | 'f' :: 'a' :: 'l' :: 's' :: 'e' :: rest => some (.bool false, rest)
  | '"' :: rest => (readString? rest).map fun (read, rest) => (.string (String.ofList read), rest)
  | text => (readNumber? text).map fun (read, rest) => (.number read, rest)

/-- The tokens in front of the first thing that is none, and whether the text ends there. At most
`bound` tokens are read. -/
def Token.leadingWithin : Nat → List Char → List Token × Bool
  | 0, _ => ([], false)
  | bound + 1, text =>
    if (skipBlanks text).isEmpty then ([], true)
    else match next? text with
      | none => ([], false)
      | some (token, rest) =>
        let (tokens, complete) := leadingWithin bound rest
        (token :: tokens, complete)

/-- The tokens in front of the first thing that is none, and whether the text ends there. A token
has at least one character. -/
def Token.leading (text : List Char) : List Token × Bool :=
  leadingWithin (text.length + 1) text

/-- Reads a whole text as tokens. -/
def Token.scan? (text : List Char) : Option (List Token) :=
  match leading text with
  | (tokens, true) => some tokens
  | (_, false) => none

end Conformance.Json
