import Conformance.Config.Draft
import Conformance.Json.Token
/-!
Reading configurations from JSON text: an object of fields, or an array of their values in order.
Reading goes from left to right, so that a mismatch wins over whatever is malformed behind it.
-/

namespace Conformance.Config

open Json (Token)

/-- What a token that begins a value stands for. -/
def found? : Token → Option Found
  | .null => some .null
  | .bool value => some (.boolean value)
  | .number (.decimal value) => some (.decimal value)
  | .number (.whole value) =>
    if Int64.minValue.toInt ≤ value ∧ value < UInt64.size then some (.whole value)
    else some (.decimal (Double.ofInt value))
  | .string value => some (.string value)
  | .openArray => some .sequence
  | .openObject => some .map
  | _ => none

/-- The error for what stands in the place of a wanted value. -/
def refusal (wanted : Wanted) : List Token → ReadError
  | [] => .malformed
  | token :: _ =>
    match found? token with
    | some found => .mismatch (.wrongType found wanted)
    | none => .malformed

/-- What a reader has read, and the tokens behind it. -/
abbrev Reading (α : Type) := Except ReadError (α × List Token)

def readBoolean (tokens : List Token) : Reading Bool :=
  match tokens with
  | .bool value :: rest => .ok (value, rest)
  | tokens => .error (refusal .boolean tokens)

def readDepth (tokens : List Token) : Reading Nat :=
  match tokens with
  | .number (.whole value) :: rest =>
    if Int64.minValue.toInt ≤ value ∧ value < UInt64.size then
      match depthOf value with
      | .ok depth => .ok (depth, rest)
      | .error mismatch => .error (.mismatch mismatch)
    else .error (refusal .natural tokens)
  | tokens => .error (refusal .natural tokens)

/-- Reads the strings of an array and its end. -/
def readStrings (found : List String) : List Token → Reading (List String)
  | .string text :: .comma :: rest => readStrings (found ++ [text]) rest
  | .string text :: .closeArray :: rest => .ok (found ++ [text], rest)
  | .string _ :: _ => .error .malformed
  | tokens => .error (refusal .string tokens)

def readNames (tokens : List Token) : Reading (List String) :=
  match tokens with
  | .openArray :: .closeArray :: rest => .ok ([], rest)
  | .openArray :: rest => readStrings [] rest
  | tokens => .error (refusal .sequence tokens)

/-- Reads the value of a field into a draft. -/
def Draft.readField (draft : Draft) (field : Field) (tokens : List Token) : Reading Draft :=
  let given := field :: draft.given
  match field with
  | .strict =>
    (readBoolean tokens).map fun (value, rest) =>
      (⟨{ draft.config with strict := value }, given⟩, rest)
  | .ignoreAllFormats =>
    (readBoolean tokens).map fun (value, rest) =>
      (⟨{ draft.config with ignoreAllFormats := value }, given⟩, rest)
  | .ignoredFormats =>
    (readNames tokens).map fun (names, rest) =>
      (⟨{ draft.config with ignoredFormats := normalNames names }, given⟩, rest)
  | .maxDepth =>
    (readDepth tokens).map fun (depth, rest) =>
      (⟨{ draft.config with maxDepth := depth }, given⟩, rest)

/-- Reads entries and the end of their object. Every entry gives a new field, so that there are no
more of them than fields. -/
def Draft.readEntries : Nat → Draft → List Token → Reading Draft
  | 0, _, _ => .error .malformed
  | bound + 1, draft, .string name :: tokens =>
    match draft.claim name with
    | .error mismatch => .error (.mismatch mismatch)
    | .ok field =>
      match tokens with
      | .colon :: tokens =>
        match draft.readField field tokens with
        | .error error => .error error
        | .ok (draft, .comma :: rest) => readEntries bound draft rest
        | .ok (draft, .closeObject :: rest) => .ok (draft, rest)
        | .ok _ => .error .malformed
      | _ => .error .malformed
  | _, _, _ => .error .malformed

/-- Reads the values of fields and the end of their array. -/
def Draft.readValues (draft : Draft) : List Field → List Token → Reading Draft
  | [], _ => .error .malformed
  | field :: fields, tokens =>
    match draft.readField field tokens with
    | .error error => .error error
    | .ok (draft, .comma :: rest) => readValues draft fields rest
    | .ok (draft, .closeArray :: rest) => .ok (draft, rest)
    | .ok _ => .error .malformed

def readDraft (tokens : List Token) : Reading Draft :=
  match tokens with
  | .openObject :: .closeObject :: rest => .ok ({}, rest)
  | .openObject :: rest => Draft.readEntries (Field.all.length + 1) {} rest
  | .openArray :: .closeArray :: rest => .ok ({}, rest)
  | .openArray :: rest => Draft.readValues {} Field.all rest
  | tokens => .error (refusal .config tokens)

/-- Reads a configuration from JSON text. -/
def ofJson (text : String) : Except ReadError Config :=
  let (tokens, complete) := Token.leading text.toList
  match readDraft tokens with
  | .error error => .error error
  | .ok (draft, rest) =>
    if complete && rest.isEmpty then .ok draft.config else .error .malformed

end Conformance.Config
