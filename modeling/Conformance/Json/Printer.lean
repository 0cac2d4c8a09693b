import Conformance.Value
/-!
JSON text of values, compact and indented. Byte sequences are written as arrays of integers, and
doubles that are not finite as `null`.
-/

namespace Conformance

namespace Json

/-- Floats in JSON: always with a fraction, with an exponent from `10 ^ 16` on and below
`10 ^ -5`. -/
def jsonFloat : FloatText :=
  { tie := .even
    positionalPoints := some (-4, 16)
    keepPoint := true
    nan := "null"
    infinite := "null"
    negativeInfinite := "null" }

def hexDigit (digit : Nat) : Char :=
  Char.ofNat (if digit < 10 then digit + 48 else digit + 87)

/-- A character inside a JSON string: quotes, backslashes and control characters are escaped. -/
def escape (char : Char) : List Char :=
  if char = '"' then ['\\', '"']
  else if char = '\\' then ['\\', '\\']
  else if 32 ≤ char.toNat then [char]
  else if char = '\x08' then ['\\', 'b']
  else if char = '\x0c' then ['\\', 'f']
  else if char = '\n' then ['\\', 'n']
  else if char = '\r' then ['\\', 'r']
  else if char = '\t' then ['\\', 't']
  else ['\\', 'u', '0', '0', hexDigit (char.toNat / 16), hexDigit (char.toNat % 16)]

/-- A string between quotes. -/
def quote (text : String) : List Char :=
  '"' :: (text.toList.flatMap escape ++ ['"'])

def writeNumber : Number → List Char
  | .int value => (toString value.toInt).toList
  | .float value => (jsonFloat.write value).toList

/-- Texts with commas between them. -/
def separated (separator : List Char) : List (List Char) → List Char
  | [] => []
  | [text] => text
  | text :: texts => text ++ separator ++ separated separator texts

def writeOctets (octets : ByteArray) : List (List Char) :=
  octets.data.toList.map (fun octet => (toString octet.toNat).toList)

end Json

namespace Value

open Json

mutual

/-- The JSON text of a value without spaces. -/
def compact : Value → List Char
  | .null => "null".toList
  | .bool true => "true".toList
  | .bool false => "false".toList
  | .number size => writeNumber size
  | .string text => quote text
  | .bytes octets => '[' :: (separated [','] (writeOctets octets) ++ [']'])
  | .array items => '[' :: (separated [','] (compactItems items) ++ [']'])
  | .object entries => '{' :: (separated [','] (compactEntries entries) ++ ['}'])
termination_by structural value => value

def compactItems : List Value → List (List Char)
  | [] => []
  | item :: items => compact item :: compactItems items
termination_by structural items => items

def compactEntries : List (String × Value) → List (List Char)
  | [] => []
  | (key, value) :: entries => (quote key ++ ':' :: compact value) :: compactEntries entries
termination_by structural entries => entries

end

/-- A line break and the indentation of a depth. -/
def newline (depth : Nat) : List Char := '\n' :: List.replicate (2 * depth) ' '

/-- Texts between brackets, each on a line of its own; without texts the brackets touch. -/
def bracketed (opening closing : Char) (depth : Nat) (texts : List (List Char)) : List Char :=
  if texts.isEmpty then [opening, closing]
  else
    opening :: (newline (depth + 1) ++ separated (',' :: newline (depth + 1)) texts ++
      newline depth ++ [closing])

mutual

/-- The JSON text of a value at a depth, two spaces of indentation for each level. -/
def indented (depth : Nat) : Value → List Char
  | .null => "null".toList
  | .bool true => "true".toList
  | .bool false => "false".toList
  | .number size => writeNumber size
  | .string text => quote text
  | .bytes octets => bracketed '[' ']' depth (writeOctets octets)
  | .array items => bracketed '[' ']' depth (indentedItems (depth + 1) items)
  | .object entries => bracketed '{' '}' depth (indentedEntries (depth + 1) entries)
termination_by structural value => value

def indentedItems (depth : Nat) : List Value → List (List Char)
  | [] => []
  | item :: items => indented depth item :: indentedItems depth items
termination_by structural items => items

def indentedEntries (depth : Nat) : List (String × Value) → List (List Char)
  | [] => []
  | (key, value) :: entries =>
    (quote key ++ ':' :: ' ' :: indented depth value) :: indentedEntries depth entries
termination_by structural entries => entries

end

/-- The compact JSON text, which is also how a value appears in messages. -/
def text (value : Value) : String := String.ofList value.compact

/-- The indented JSON text. -/
def pretty (value : Value) : String := String.ofList (value.indented 0)

end Value

end Conformance
