import Conformance.Json.Printer
import Conformance.Pattern
/-!
Why a document is no schema.
-/

namespace Conformance

/-- What is wrong with the value of a constraint. -/
inductive Flaw where
  | notTypeName (value : Value)
  | notSchema (actual : Kind)
  | notSchemaList
  | notValueList
  | notNumeral (text : String)
  | notNumber (actual : Kind)
  | notPositive
  | notNatural (number : Number)
  | notCount (actual : Kind)
  | notKeyName (value : Value)
  | notNameList (actual : Kind)
  | notFormatName
  | notBoolean
  | notPattern
  | badPattern (error : Pattern.SourceError)
  | badEntryPattern (source : String) (error : Pattern.SourceError)
  | notSchemaTable
  | notDependencyTable
  | notDependency (key : String) (actual : Kind)
  | notSiblingName

def Flaw.message : Flaw → String
  | .notTypeName value => "`" ++ value.text ++ "` is not a type name"
  | .notSchema actual => "expected a schema, got " ++ actual.name
  | .notSchemaList => "expected a non-empty list of schemas"
  | .notValueList => "expected a list of values"
  | .notNumeral text => "`" ++ text ++ "` is not a number"
  | .notNumber actual => "expected a number, got " ++ actual.name
  | .notPositive => "must be greater than zero"
  | .notNatural number => "expected a non-negative integer, got " ++ number.text
  | .notCount actual => "expected a non-negative integer, got " ++ actual.name
  | .notKeyName value => "`" ++ value.text ++ "` is not a key name"
  | .notNameList actual => "expected a list of names, got " ++ actual.name
  | .notFormatName => "expected a format name"
  | .notBoolean => "expected a boolean"
  | .notPattern => "expected a regular expression"
  | .badPattern error => error.message
  | .badEntryPattern source error => "invalid pattern `" ++ source ++ "`: " ++ error.message
  | .notSchemaTable => "expected a mapping of names to schemas"
  | .notDependencyTable => "expected a mapping of keys to schemas or key lists"
  | .notDependency key actual =>
    "dependency of `" ++ key ++ "` must be a schema or a list of keys, got " ++ actual.name
  | .notSiblingName => "probe expects a sibling name"

/-- What is wrong with a document as a whole. -/
inductive DocumentFlaw where
  | notMapping (actual : Kind)
  | repeated (constraint : String)
  deriving DecidableEq, Repr

def DocumentFlaw.message : DocumentFlaw → String
  | .notMapping actual => "expected a mapping, got " ++ actual.name
  | .repeated constraint => "constraint '" ++ constraint ++ "' is given more than once"

/-- Why a document does not compile. -/
inductive CompileError where
  | unknownConstraint (name : String)
  | unknownType (name : String)
  | malformedValue (constraint : String) (flaw : Flaw)
  | notApplicable (constraint : String) (declared : KindSet)
  | unknownFormat (name : String)
  | unknownSchema (name : String)
  | malformedDocument (flaw : DocumentFlaw)
  | recursionLimit (limit : Nat)

def CompileError.message : CompileError → String
  | .unknownConstraint name => "unknown constraint '" ++ name ++ "'"
  | .unknownType name => "unknown primitive type '" ++ name ++ "'"
  | .malformedValue constraint flaw =>
    "malformed value for constraint '" ++ constraint ++ "': " ++ flaw.message
  | .notApplicable constraint declared =>
    "constraint '" ++ constraint ++ "' does not apply to values of type " ++ declared.text
  | .unknownFormat name => "unknown format '" ++ name ++ "'"
  | .unknownSchema name => "unknown schema '" ++ name ++ "'"
  | .malformedDocument flaw => "malformed schema: " ++ flaw.message
  | .recursionLimit limit =>
    "schema nesting exceeds the maximum depth of " ++ toString limit

end Conformance
