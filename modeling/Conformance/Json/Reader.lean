import Conformance.Json.Token
/-!
Reading values from JSON text. A machine with a stack of unfinished arrays and objects takes the
tokens one after the other; what it still expects is its state. Containers nest `nestingLimit`
deep at most, and a repeated key keeps its first place and its last value.
-/

namespace Conformance.Json

/-- An unfinished container: the items read so far, or the entries and the key that waits for its
value. -/
inductive Frame where
  | array (items : List Value)
  | object (entries : List (String × Value)) (key : String)

/-- What the reader expects next. -/
inductive State where
  /-- A value. -/
  | awaitValue (stack : List Frame)
  /-- The first item of an array, or its end. -/
  | arrayStart (stack : List Frame)
  /-- The first key of an object, or its end. -/
  | objectStart (stack : List Frame)
  /-- A key. -/
  | awaitKey (entries : List (String × Value)) (stack : List Frame)
  /-- The colon behind a key. -/
  | awaitColon (entries : List (String × Value)) (key : String) (stack : List Frame)
  /-- What follows a finished value. -/
  | finished (value : Value) (stack : List Frame)

/-- How deep arrays and objects nest at most. -/
def nestingLimit : Nat := 127

/-- Takes the first token of a value. -/
def State.open? (stack : List Frame) : Token → Option State
  | .null => some (.finished .null stack)
  | .bool value => some (.finished (.bool value) stack)
  | .number numeral => some (.finished (.number numeral.number) stack)
  | .string value => some (.finished (.string value) stack)
  | .openArray => if stack.length < nestingLimit then some (.arrayStart stack) else none
  | .openObject => if stack.length < nestingLimit then some (.objectStart stack) else none
  | _ => none

/-- Takes one token. -/
def State.step? : State → Token → Option State
  | .awaitValue stack, token => open? stack token
  | .arrayStart stack, .closeArray => some (.finished (.array []) stack)
  | .arrayStart stack, token => open? (.array [] :: stack) token
  | .objectStart stack, .closeObject => some (.finished (.object []) stack)
  | .objectStart stack, .string key => some (.awaitColon [] key stack)
  | .awaitKey entries stack, .string key => some (.awaitColon entries key stack)
  | .awaitColon entries key stack, .colon => some (.awaitValue (.object entries key :: stack))
  | .finished value (.array items :: stack), .comma =>
    some (.awaitValue (.array (items ++ [value]) :: stack))
  | .finished value (.array items :: stack), .closeArray =>
    some (.finished (.array (items ++ [value])) stack)
  | .finished value (.object entries key :: stack), .comma =>
    some (.awaitKey (Table.put entries key value) stack)
  | .finished value (.object entries key :: stack), .closeObject =>
    some (.finished (.object (Table.put entries key value)) stack)
  | _, _ => none

/-- Takes tokens one after the other. -/
def State.run? : State → List Token → Option State
  | state, [] => some state
  | state, token :: tokens => (state.step? token).bind (fun next => run? next tokens)

/-- The value that a whole list of tokens spells. -/
def ofTokens? (tokens : List Token) : Option Value :=
  match (State.awaitValue []).run? tokens with
  | some (.finished value []) => some value
  | _ => none

end Conformance.Json

namespace Conformance.Value

/-- Reads a value from JSON text. -/
def ofJson? (text : String) : Option Value :=
  (Json.Token.scan? text.toList).bind Json.ofTokens?

end Conformance.Value
