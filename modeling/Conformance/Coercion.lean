import Conformance.Failure
import Conformance.Text.Blank
import Conformance.Text.LetterCase
/-!
Coercion of values into kinds. A value that is of a wanted kind stays as it is; any other becomes
a value of the first wanted kind, in one fixed order, that has a conversion for it.
-/

namespace Conformance

namespace Coercion

/-- The order in which kinds are tried. -/
def order : List Kind :=
  [.integer, .float, .string, .boolean, .bytes, .array, .object, .null]

def integer? : Value → Option Value
  | .number number => number.truncate?.map .number
  | .string text => (Number.readInteger? (Text.trim text)).map .ofInt64
  | .bool value => some (.ofInt64 (if value then 1 else 0))
  | _ => none

def float? : Value → Option Value
  | .number number => some (.number (.float number.toDouble))
  | .string text =>
    match Double.ofText? (Text.trim text) with
    | some value => if value.isFinite then some (.number (.float value)) else none
    | none => none
  | .bool value => some (.number (.float (Double.ofInt (if value then 1 else 0))))
  | _ => none

def string? : Value → Option Value
  | .bool value => some (.string (if value then "true" else "false"))
  | .number number => some (.string number.text)
  | .bytes octets => (String.fromUTF8? octets).map .string
  | _ => none

/-- The words that stand for truth and falsehood. -/
def truth? (word : String) : Option Bool :=
  if word ∈ ["true", "yes", "on", "1"] then some true
  else if word ∈ ["false", "no", "off", "0"] then some false
  else none

def boolean? : Value → Option Value
  | .number number => some (.bool (!number.isZero))
  | .string text =>
    (truth? (String.ofList (Text.lowerText (Text.trimChars text.toList)))).map .bool
  | _ => none

/-- The octet that a value is. -/
def octet? : Value → Option UInt8
  | .number number =>
    match number.natural? with
    | some value => if value < 256 then some (UInt8.ofNat value) else none
    | none => none
  | _ => none

def bytes? : Value → Option Value
  | .string text => some (.bytes text.toUTF8)
  | .array items => (items.mapM octet?).map fun octets => .bytes ⟨octets.toArray⟩
  | _ => none

def array? : Value → Option Value
  | .bytes octets => some (.array (octets.data.toList.map fun octet => .ofNat octet.toNat))
  | _ => none

/-- The key and the value that a pair holds. -/
def entry? : Value → Option (String × Value)
  | .array [.string key, value] => some (key, value)
  | _ => none

def object? : Value → Option Value
  | .array items => (items.mapM entry?).map fun entries => .object (Table.ofPairs entries)
  | _ => none

/-- The value of a kind that stands for a value of another kind. -/
def to? (kind : Kind) (value : Value) : Option Value :=
  match kind with
  | .integer => integer? value
  | .float => float? value
  | .string => string? value
  | .boolean => boolean? value
  | .bytes => bytes? value
  | .array => array? value
  | .object => object? value
  | .null => none

end Coercion

namespace Value

/-- Brings a value into one of the wanted kinds. -/
def coerce (value : Value) (kinds : KindSet) : Except Cause Value :=
  if kinds.contains value.kind then .ok value
  else match (Coercion.order.filter kinds.contains).findSome? (Coercion.to? · value) with
    | some coerced => .ok coerced
    | none => .error (.inconvertible value kinds)

end Value

end Conformance
