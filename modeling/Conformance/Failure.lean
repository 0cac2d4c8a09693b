import Conformance.Json.Printer
/-!
Failures: why a constraint refused an instance, and where. A failure with parts is a composite
whose parts carry paths relative to its own; `Failure.leaves` spreads the tree into the paths from
the root to each part without parts of its own, with the causes found there.
-/

namespace Conformance

/-- One step on the way from a schema to a failing constraint. -/
inductive Segment where
  | constraint (name : String)
  | key (name : String)
  | index (position : Nat)
  | label (name : String)
  deriving DecidableEq, Repr

/-- How a step is shown. -/
def Segment.text : Segment → String
  | .constraint name => name
  | .key name => "\x7b" ++ name ++ "\x7d"
  | .index position => "[" ++ toString position ++ "]"
  | .label name => name

/-- A path with strokes between its steps. -/
def pathText (path : List Segment) : String := "/".intercalate (path.map Segment.text)

/-- What a rule on values of certain kinds expects to find. -/
inductive Expectation where
  | number
  | string
  | array
  | object
  | collection
  deriving DecidableEq, Repr

def Expectation.text : Expectation → String
  | .number => "a number"
  | .string => "a string"
  | .array => "an array"
  | .object => "an object"
  | .collection => "a collection"

/-- Why a constraint refuses an instance. -/
inductive Cause where
  | wrongType (kinds : KindSet) (actual : Kind)
  | inconvertible (subject : Value) (kinds : KindSet)
  | notAmong (subject : Value) (choices : List Value)
  | notConstant (expected : Value)
  | unexpectedKind (expected : Expectation) (actual : Kind)
  | notMultiple (divisor : Number)
  | aboveMaximum (bound : Number)
  | belowMinimum (bound : Number)
  | notBelow (bound : Number)
  | notAbove (bound : Number)
  | tooLong (limit : Nat)
  | tooShort (limit : Nat)
  | patternUnmatched (source : String)
  | formatUnmatched (subject format : String)
  | missingItems (required actual : Nat)
  | itemsFail
  | tooMany (limit : Nat) (noun : String)
  | tooFew (limit : Nat) (noun : String)
  | repeatedItems
  | noItemMatches
  | missingEntries (names : List String)
  | entriesFail
  | missingPeers (key : String) (names : List String)
  | dependenciesFail
  | entryNamesFail
  | allFail
  | noneMatch
  | severalMatch (positions : List Nat)
  | forbiddenMatch
  | branchFails (label : String)
  | nothingAllowed
  | schemaFails (name : String)
  | notApplicable (actual : Kind) (applicable : KindSet)
  | notEven
  | probed (constraint : String) (strict : Bool) (declared : Option KindSet) (sibling : String)
      (found : Option Value)

/-- The message that a cause is reported with. -/
def Cause.message : Cause → String
  | .wrongType kinds actual => "must be of type " ++ kinds.text ++ ", got " ++ actual.name
  | .inconvertible subject kinds =>
    "cannot convert " ++ subject.kind.name ++ " `" ++ subject.text ++ "` to " ++ kinds.text
  | .notAmong subject choices => subject.text ++ " is not one of " ++ (Value.array choices).text
  | .notConstant expected => "must be " ++ expected.text
  | .unexpectedKind expected actual => "expected " ++ expected.text ++ ", got " ++ actual.name
  | .notMultiple divisor => "must be a multiple of " ++ divisor.text
  | .aboveMaximum bound => "must be no larger than " ++ bound.text
  | .belowMinimum bound => "must be no smaller than " ++ bound.text
  | .notBelow bound => "must be smaller than " ++ bound.text
  | .notAbove bound => "must be larger than " ++ bound.text
  | .tooLong limit => "must be no longer than " ++ toString limit ++ " characters"
  | .tooShort limit => "must be no shorter than " ++ toString limit ++ " characters"
  | .patternUnmatched source => "must match the pattern " ++ source
  | .formatUnmatched subject format =>
    "\"" ++ subject ++ "\" does not match the format " ++ format
  | .missingItems required actual =>
    "expected at least " ++ toString required ++ " items, got " ++ toString actual
  | .itemsFail => "a sub-schema does not match"
  | .tooMany limit noun => "must not have more than " ++ toString limit ++ " " ++ noun
  | .tooFew limit noun => "must not have less than " ++ toString limit ++ " " ++ noun
  | .repeatedItems => "items must be unique"
  | .noItemMatches => "no item matches the schema"
  | .missingEntries names => "must have the required entries: " ++ ", ".intercalate names
  | .entriesFail => "not all entries match"
  | .missingPeers key names =>
    "since " ++ key ++ " appears, " ++ ", ".intercalate names ++ " must also appear"
  | .dependenciesFail => "dependant validation failed"
  | .entryNamesFail => "entry names do not all match"
  | .allFail => "does not match all sub-schemas"
  | .noneMatch => "does not match any sub-schema"
  | .severalMatch positions =>
    "matches " ++ toString positions.length ++ " sub-schemas (" ++
      ", ".intercalate (positions.map toString) ++ "), expected exactly one"
  | .forbiddenMatch => "must not match the sub-schema"
  | .branchFails label => "'" ++ label ++ "' subschema does not validate and must"
  | .nothingAllowed => "no value is allowed here"
  | .schemaFails name => "does not satisfy schema " ++ name
  | .notApplicable actual applicable =>
    "not applicable to " ++ actual.name ++ ", expects " ++ applicable.text
  | .notEven => "must be even"
  | .probed constraint strict declared sibling found =>
    constraint ++ " strict=" ++ (if strict then "true" else "false") ++ " declared=" ++
      (match declared with | some kinds => kinds.text | none => "unknown") ++ " " ++ sibling ++
      "=" ++ (match found with | some value => value.text | none => "absent")

/-- Whether a constraint does not apply to the instance's kind. -/
def Cause.isNotApplicable : Cause → Bool
  | .notApplicable _ _ => true
  | _ => false

/-- The sort of a cause: whether the constraint failed or did not apply. -/
def Cause.sort (cause : Cause) : String :=
  if cause.isNotApplicable then "notApplicable" else "failed"

/-- A refusal: the constraint and the schema it is attributed to, its cause, its path relative to
the failure that holds it, and its parts. -/
inductive Failure where
  | mk (constraint : Option String) (cause : Cause) (path : List Segment)
      (parts : List Failure) (schema : Option String)

namespace Failure

def constraint : Failure → Option String
  | .mk constraint _ _ _ _ => constraint

def cause : Failure → Cause
  | .mk _ cause _ _ _ => cause

def path : Failure → List Segment
  | .mk _ _ path _ _ => path

def parts : Failure → List Failure
  | .mk _ _ _ parts _ => parts

def schema : Failure → Option String
  | .mk _ _ _ _ schema => schema

/-- A failure without parts and not yet attributed. -/
def ofCause (cause : Cause) : Failure := .mk none cause [] [] none

/-- A failure with parts. -/
def composite (cause : Cause) (parts : List Failure) : Failure := .mk none cause [] parts none

/-- Puts a step in front of the path. -/
def under (segment : Segment) : Failure → Failure
  | .mk constraint cause path parts schema => .mk constraint cause (segment :: path) parts schema

/-- Names the constraint that failed and, unless a schema is named already, the schema. -/
def attributed (constraint schema : String) : Failure → Failure
  | .mk _ cause path parts named =>
    .mk (some constraint) cause (.constraint constraint :: path) parts
      (some (named.getD schema))

def message (failure : Failure) : String := failure.cause.message

/-- The message behind the path. -/
def text (failure : Failure) : String :=
  if failure.path.isEmpty then failure.message
  else pathText failure.path ++ ": " ++ failure.message

mutual

/-- The paths from a root to each failure without parts, with the causes. -/
def leavesUnder (above : List Segment) : Failure → List (List Segment × Cause)
  | .mk _ cause path [] _ => [(above ++ path, cause)]
  | .mk _ _ path (part :: parts) _ =>
    leavesUnder (above ++ path) part ++ leavesOfParts (above ++ path) parts
termination_by structural failure => failure

def leavesOfParts (above : List Segment) : List Failure → List (List Segment × Cause)
  | [] => []
  | part :: parts => leavesUnder above part ++ leavesOfParts above parts
termination_by structural parts => parts

end

/-- The leaves of a failure, in order. -/
def leaves (failure : Failure) : List (List Segment × Cause) := leavesUnder [] failure

end Failure

end Conformance
