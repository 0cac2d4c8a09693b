import Conformance.Schema
/-!
Reports of validations: the outcome of every constraint that was reached, as text and as a JSON
document.
-/

namespace Conformance

/-- A step of a path in a JSON document: an index is a number, any other step its name. -/
def Segment.value : Segment → Value
  | .constraint name => .string name
  | .key name => .string name
  | .index position => .ofNat position
  | .label name => .string name

namespace Failure

mutual

/-- A failure as a document. What is not known is left out. -/
def value : Failure → Value
  | .mk constraint cause path parts schema =>
    .object
      ((constraint.map fun name => ("constraint", Value.string name)).toList ++
        [("message", .string cause.message), ("path", .array (path.map Segment.value))] ++
        (if parts.isEmpty then [] else [("subErrors", .array (valuesOfParts parts))]) ++
        (schema.map fun name => ("schema", Value.string name)).toList ++
        [("kind", .string cause.sort)])
termination_by structural failure => failure

def valuesOfParts : List Failure → List Value
  | [] => []
  | part :: parts => value part :: valuesOfParts parts
termination_by structural parts => parts

end

end Failure

/-- The outcome of validation: what was validated against which schema, and every constraint that
was reached, with its failure if it has one. -/
structure Report where
  schema : String
  subject : Value
  outcomes : List (String × Option Failure)

namespace Report

/-- The failures, in the order of their constraints. -/
def failing (report : Report) : List Failure := report.outcomes.filterMap Prod.snd

def success (report : Report) : Bool := report.outcomes.all fun outcome => outcome.2.isNone

/-- The leaves of all failures, with their paths from the root. -/
def leaves (report : Report) : List (List Segment × Cause) :=
  report.failing.flatMap Failure.leaves

/-- A line for every leaf. -/
def leafLine (leaf : List Segment × Cause) : String :=
  "  " ++ pathText leaf.1 ++ ": " ++ leaf.2.message ++ "\n"

/-- The report as text: one word for a success, else a heading and a line for every leaf. -/
def text (report : Report) : String :=
  if report.success then "valid"
  else
    "invalid against schema " ++ report.schema ++ ":\n" ++
      String.join (report.leaves.map leafLine)

/-- The report as a document. -/
def value (report : Report) : Value :=
  .object
    [("schema", .string report.schema), ("instance", report.subject),
      ("success", .bool report.success),
      ("errors", .object (report.outcomes.map fun outcome =>
        (outcome.1, (outcome.2.map Failure.value).getD .null)))]

end Report

namespace Schema

/-- Validates an instance. -/
def validate (schema : Schema) (subject : Value) (isPartial : Bool) : Report :=
  ⟨schema.name, subject, schema.outcomes subject isPartial⟩

end Schema

end Conformance
