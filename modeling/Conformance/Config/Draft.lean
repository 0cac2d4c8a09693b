import Conformance.Config
import Conformance.Json.Printer
import Conformance.Text.Shown
/-!
Drafts of configurations: the fields that a text has given so far. A field is given at most once,
and one that is not given keeps its default.
-/

namespace Conformance.Config

/-- The fields of a configuration. -/
inductive Field where
  | strict
  | ignoreAllFormats
  | ignoredFormats
  | maxDepth
  deriving DecidableEq, Repr

namespace Field

/-- The fields, in order. -/
def all : List Field := [.strict, .ignoreAllFormats, .ignoredFormats, .maxDepth]

def name : Field → String
  | .strict => "strict"
  | .ignoreAllFormats => "ignoreAllFormats"
  | .ignoredFormats => "ignoredFormats"
  | .maxDepth => "maxDepth"

def ofName? (name : String) : Option Field := all.find? (·.name == name)

end Field

/-- What a place in a text has to hold. -/
inductive Wanted where
  | boolean
  | natural
  | string
  | sequence
  | config
  deriving DecidableEq, Repr

def Wanted.text : Wanted → String
  | .boolean => "a boolean"
  | .natural => "usize"
  | .string => "a string"
  | .sequence => "a sequence"
  | .config => "struct EnvironmentConfig"

/-- What a place in a text holds. -/
inductive Found where
  | null
  | boolean (value : Bool)
  | whole (value : Int)
  | decimal (value : Double)
  | string (value : String)
  | sequence
  | map
  deriving DecidableEq, Repr

def Found.text : Found → String
  | .null => "null"
  | .boolean value => "boolean `" ++ (if value then "true" else "false") ++ "`"
  | .whole value => "integer `" ++ toString value ++ "`"
  | .decimal value => "floating point `" ++ Json.jsonFloat.write value ++ "`"
  | .string value => "string " ++ Text.shown value
  | .sequence => "sequence"
  | .map => "map"

/-- Why a text that can be read gives no configuration. -/
inductive Mismatch where
  | wrongType (found : Found) (wanted : Wanted)
  | outOfRange (value : Int)
  | unknownField (name : String)
  | duplicateField (field : Field)
  deriving DecidableEq, Repr

def Mismatch.message : Mismatch → String
  | .wrongType found wanted => "invalid type: " ++ found.text ++ ", expected " ++ wanted.text
  | .outOfRange value =>
    "invalid value: integer `" ++ toString value ++ "`, expected " ++ Wanted.natural.text
  | .unknownField name =>
    "unknown field `" ++ name ++ "`, expected one of " ++
      ", ".intercalate (Field.all.map fun field => "`" ++ field.name ++ "`")
  | .duplicateField field => "duplicate field `" ++ field.name ++ "`"

/-- Why a text gives no configuration. -/
inductive ReadError where
  | malformed
  | mismatch (mismatch : Mismatch)
  deriving DecidableEq, Repr

/-- A configuration that is being read, and the fields that were given. -/
structure Draft where
  config : Config := {}
  given : List Field := []
  deriving DecidableEq, Repr

/-- The field of a name, if it was not given before. -/
def Draft.claim (draft : Draft) (name : String) : Except Mismatch Field :=
  match Field.ofName? name with
  | none => .error (.unknownField name)
  | some field => if field ∈ draft.given then .error (.duplicateField field) else .ok field

/-- The greatest depth that can be set. -/
def depthLimit : Nat := UInt64.size - 1

/-- A number as a depth. -/
def depthOf (value : Int) : Except Mismatch Nat :=
  if 0 ≤ value ∧ value ≤ depthLimit then .ok value.toNat else .error (.outOfRange value)

/-- The normal names of formats, in order. -/
def normalNames (names : List String) : List String :=
  NameSet.ofList (names.map Format.normalName)

end Conformance.Config
