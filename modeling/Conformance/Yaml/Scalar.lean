import Conformance.Yaml.Node
/-!
The values of YAML documents. A quoted scalar is a string; a plain one is null, a boolean or a
number where its text spells one. The keys of mappings are scalars and become strings.
-/

namespace Conformance.Yaml

/-- What a scalar spells. -/
inductive Scalar where
  | null
  | bool (value : Bool)
  | whole (value : Int)
  | float (value : Double)
  | string (text : String)
  deriving DecidableEq, Repr

def isNull (text : String) : Bool := decide (text ∈ ["", "null", "Null", "NULL", "~"])

def bool? (text : String) : Option Bool :=
  if text ∈ ["true", "True", "TRUE"] then some true
  else if text ∈ ["false", "False", "FALSE"] then some false
  else none

/-- The number that digits of a base spell. -/
def digits? (base : Nat) (digits : List Char) : Option Nat :=
  if digits.isEmpty then none
  else
    (digits.mapM Json.hexValue?).bind fun values =>
      if values.all (· < base) then some (values.foldl (fun size value => base * size + value) 0)
      else none

/-- Whether a text has a sign or none and then digits behind a zero, which is no number. -/
def hasLeadingZero (text : List Char) : Bool :=
  let unsigned := match text with
    | '-' :: rest => rest
    | '+' :: rest => rest
    | text => text
  match unsigned with
  | '0' :: first :: rest => (first :: rest).all Char.isDigit
  | _ => false

/-- The number that digits spell, in one of four bases. -/
def magnitude? (text : List Char) : Option Nat :=
  match text with
  | '0' :: 'x' :: digits => digits? 16 digits
  | '0' :: 'o' :: digits => digits? 8 digits
  | '0' :: 'b' :: digits => digits? 2 digits
  | digits => digits? 10 digits

/-- The integer that a text spells. -/
def whole? (text : List Char) : Option Int :=
  if hasLeadingZero text then none
  else match text with
    | '-' :: rest => (magnitude? rest).map fun size => -(size : Int)
    | '+' :: rest => (magnitude? rest).map fun size => (size : Int)
    | text => (magnitude? text).map fun size => (size : Int)

/-- The text without a plus sign, which no other sign may follow. -/
def unpositive? (text : List Char) : Option (List Char) :=
  match text with
  | '+' :: '+' :: _ => none
  | '+' :: '-' :: _ => none
  | '+' :: rest => some rest
  | text => some text

/-- The double that a text spells. Infinities and the double that is no number have words of their
own. -/
def float? (text : List Char) : Option Double :=
  match unpositive? text with
  | none => none
  | some unsigned =>
    if String.ofList unsigned ∈ [".inf", ".Inf", ".INF"] then Double.ofText? "inf"
    else if String.ofList text ∈ ["-.inf", "-.Inf", "-.INF"] then Double.ofText? "-inf"
    else if String.ofList text ∈ [".nan", ".NaN", ".NAN"] then Double.ofText? "NaN"
    else if hasLeadingZero text then none
    else match Double.ofText? (String.ofList unsigned) with
      | some value => if value.isFinite then some value else none
      | none => none

/-- Whether an integer is read as one; beyond 128 bits it is read as a double. -/
def isWholeRange (value : Int) : Bool :=
  decide (-(Nat.pow 2 127 : Int) ≤ value ∧ value < (Nat.pow 2 128 : Int))

/-- What a plain scalar spells. -/
def Scalar.ofPlain (text : String) : Scalar :=
  if isNull text then .null
  else match bool? text with
    | some value => .bool value
    | none =>
      match (whole? text.toList).filter isWholeRange with
      | some value => .whole value
      | none =>
        match float? text.toList with
        | some value => .float value
        | none => .string text

/-- The value of a scalar. Integers have sixty-four bits at most. -/
def Scalar.value? : Scalar → Option Value
  | .null => some .null
  | .bool value => some (.bool value)
  | .whole value =>
    if Int64.minValue.toInt ≤ value ∧ value < UInt64.size then some (.number (Number.ofWhole value))
    else none
  | .float value => some (.number (.float value))
  | .string text => some (.string text)

/-- The text of a key. -/
def keyText? : Value → Option String
  | .string text => some text
  | .number size => some size.text
  | .bool value => some (if value then "true" else "false")
  | .null => some "null"
  | _ => none

namespace Node

mutual

/-- The value of a node. A repeated key keeps its first place and its last value. -/
def value? : Node → Option Value
  | .scalar plain text => if plain then (Scalar.ofPlain text).value? else some (.string text)
  | .sequence items => (valuesOfItems? items).map .array
  | .mapping entries =>
    (valuesOfEntries? entries).map fun entries => .object (Table.ofPairs entries)
termination_by structural node => node

def valuesOfItems? : List Node → Option (List Value)
  | [] => some []
  | item :: items =>
    match value? item, valuesOfItems? items with
    | some value, some values => some (value :: values)
    | _, _ => none
termination_by structural items => items

def valuesOfEntries? : List (Node × Node) → Option (List (String × Value))
  | [] => some []
  | (key, value) :: entries =>
    match (value? key).bind keyText?, value? value, valuesOfEntries? entries with
    | some key, some value, some values => some ((key, value) :: values)
    | _, _, _ => none
termination_by structural entries => entries

end

end Node

end Conformance.Yaml

namespace Conformance.Value

/-- Reads a value from a YAML document. Without a document it is null. -/
def ofYaml? (text : String) : Option Value :=
  match Yaml.Node.ofText? text with
  | none => none
  | some none => some .null
  | some (some node) => node.value?

end Conformance.Value
