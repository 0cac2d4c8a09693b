import Conformance.Kind
import Conformance.Number
import Conformance.Table
/-!
Values: null, booleans, numbers, strings, byte sequences, arrays and objects. The entries of an
object keep the order in which their keys were first inserted, and no key occurs twice in a value
that was built by insertion. Equality of values ignores that order and compares numbers by value.
-/

namespace Conformance

/-- A dynamic value. -/
inductive Value where
  | null
  | bool (value : Bool)
  | number (value : Number)
  | string (value : String)
  | bytes (octets : ByteArray)
  | array (items : List Value)
  | object (entries : List (String × Value))

namespace Value

def kind : Value → Kind
  | .null => .null
  | .bool _ => .boolean
  | .number (.int _) => .integer
  | .number (.float _) => .float
  | .string _ => .string
  | .bytes _ => .bytes
  | .array _ => .array
  | .object _ => .object

def ofInt64 (value : Int64) : Value := .number (.int value)

/-- A whole number as a value. -/
def ofNat (value : Nat) : Value := .number (Number.ofWhole value)

def isNull : Value → Bool
  | .null => true
  | _ => false

mutual

/-- Equality of values. Numbers are compared by value, so that a double that is no number differs
from itself; objects are compared without regard to the order of their keys. -/
def equal : Value → Value → Bool
  | .null, .null => true
  | .bool left, .bool right => left == right
  | .number left, .number right => left.equal right
  | .string left, .string right => left == right
  | .bytes left, .bytes right => left == right
  | .array left, .array right => equalItems left right
  | .object left, .object right =>
    left.length == right.length && entriesFound left right
  | _, _ => false
termination_by structural left => left

/-- Equality of arrays, item by item. -/
def equalItems : List Value → List Value → Bool
  | [], [] => true
  | left :: lefts, right :: rights => equal left right && equalItems lefts rights
  | _, _ => false
termination_by structural lefts => lefts

/-- Whether each entry is found, with an equal value, among the others. -/
def entriesFound : List (String × Value) → List (String × Value) → Bool
  | [], _ => true
  | (key, value) :: entries, others =>
    (match Table.lookup others key with
      | some other => equal value other
      | none => false) && entriesFound entries others
termination_by structural entries => entries

end

instance : BEq Value := ⟨equal⟩

/-- What a value is indexed by. -/
inductive Index where
  | key (key : String)
  | position (position : Nat)
  deriving DecidableEq, Repr

/-- The value at an index; what does not exist is null. -/
def get (value : Value) : Index → Value
  | .key key =>
    match value with
    | .object entries => (Table.lookup entries key).getD .null
    | _ => .null
  | .position position =>
    match value with
    | .array items => (items[position]?).getD .null
    | _ => .null

/-- What a value was expected to be and is not. -/
inductive AccessError where
  | notBool
  | notString
  | notNumber
  | notArray
  | notObject
  deriving DecidableEq, Repr

def AccessError.message : AccessError → String
  | .notBool => "not a bool"
  | .notString => "not a string"
  | .notNumber => "not a number"
  | .notArray => "not an array"
  | .notObject => "not an object"

def asBool : Value → Except AccessError Bool
  | .bool value => .ok value
  | _ => .error .notBool

def asString : Value → Except AccessError String
  | .string value => .ok value
  | _ => .error .notString

def asNumber : Value → Except AccessError Number
  | .number value => .ok value
  | _ => .error .notNumber

def asArray : Value → Except AccessError (List Value)
  | .array items => .ok items
  | _ => .error .notArray

def asObject : Value → Except AccessError (Table Value)
  | .object entries => .ok entries
  | _ => .error .notObject

/-- Appends an item to an array. -/
def push (value item : Value) : Except AccessError Value :=
  value.asArray.map (fun items => .array (items ++ [item]))

/-- Puts an entry into an object. -/
def insert (value : Value) (key : String) (entry : Value) : Except AccessError Value :=
  value.asObject.map (fun entries => .object (Table.put entries key entry))

end Value

end Conformance
