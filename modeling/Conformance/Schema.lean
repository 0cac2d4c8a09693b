import Conformance.Behaviour
import Conformance.Registry
/-!
Schemas: the constraints of a document, bound to rules, in the order in which they run. A rule
either looks at the instance alone or delegates parts of it to sub-schemas. `Schema.behaviour` says
what a schema does with instances, by recursion on the schema.
-/

namespace Conformance

/-- What a schema knows of itself and of the environment that it was compiled in. -/
structure Header where
  name : String
  /-- Whether the name was given; else it is the digest of the document. -/
  named : Bool
  document : Value
  digest : String
  environment : Nat
  environmentRevision : Nat
  strict : Bool
  /-- The kinds that the document's type admits, if it has one. -/
  declared : Option KindSet
  revision : Nat
  registry : Registry
  /-- The names of the schemas that this one was built from, in order. -/
  references : List String

/-- The kinds of instance that a constraint runs on, and whether it refuses others. -/
structure Guard where
  applicable : KindSet
  strict : Bool
  deriving DecidableEq, Repr

mutual

/-- What stands at the position of a sub-schema. -/
inductive Subschema where
  | accept
  | reject
  | schema (schema : Schema)

/-- A compiled document. -/
inductive Schema where
  | mk (header : Header) (constraints : List Bound)

/-- A constraint bound to a rule. A failure of a terminal constraint ends validation. -/
inductive Bound where
  | mk (name : String) (terminal : Bool) (restriction : Option Guard) (rule : Rule)

/-- What a constraint does with an instance. -/
inductive Rule where
  | check (check : Check)
  | items (positional : List Subschema) (rest : Subschema)
  | contains (item : Subschema)
  | entries (listed : List (String × Subschema))
  | patternEntries (listed : List (Pattern × Subschema))
  | additionalEntries (listed : List String) (patterns : List Pattern) (entry : Subschema)
  | dependencies (demands : List (String × Dependency))
  | entryNames (name : Subschema)
  | allOf (branches : List Subschema)
  | anyOf (branches : List Subschema)
  | oneOf (branches : List Subschema)
  | negation (excluded : Subschema)
  | conditional (condition : Subschema) (positive negative : Option Subschema)
  | apply (whole : Subschema)

/-- What the presence of an entry asks for. -/
inductive Dependency where
  | peers (names : List String)
  | whole (schema : Subschema)

end

mutual

def Subschema.behaviour : Subschema → Behaviour
  | .accept => .pass
  | .reject => .refuse
  | .schema schema => schema.behaviour
termination_by structural schema => schema

/-- What a schema does with instances. -/
def Schema.behaviour : Schema → Behaviour
  | .mk header constraints => Step.sequence header.name (stepsOf constraints)
termination_by structural schema => schema

def Bound.step : Bound → Step
  | .mk name terminal none rule => ⟨name, terminal, rule.behaviour⟩
  | .mk name terminal (some restriction) rule =>
    ⟨name, terminal, rule.behaviour.guarded restriction.applicable restriction.strict⟩
termination_by structural bound => bound

@[simp]
def Rule.behaviour : Rule → Behaviour
  | .check check => .ofRule check
  | .items positional rest => .items (behavioursOf positional) rest.behaviour
  | .contains item => .contains item.behaviour
  | .entries listed => .entries (entryBehavioursOf listed)
  | .patternEntries listed => .patternEntries (patternBehavioursOf listed)
  | .additionalEntries listed patterns entry =>
    .additionalEntries listed patterns entry.behaviour
  | .dependencies demands => .dependencies (demandsOf demands)
  | .entryNames name => .entryNames name.behaviour
  | .allOf branches => .allOf (behavioursOf branches)
  | .anyOf branches => .anyOf (behavioursOf branches)
  | .oneOf branches => .oneOf (behavioursOf branches)
  | .negation excluded => .negation excluded.behaviour
  | .conditional condition positive negative =>
    .conditional condition.behaviour (behaviourOf? positive) (behaviourOf? negative)
  | .apply whole => whole.behaviour.under (.label "apply")
termination_by structural rule => rule

def Dependency.demand : Dependency → Behaviour.Demand
  | .peers names => .peers names
  | .whole schema => .whole schema.behaviour
termination_by structural dependency => dependency

/-- The steps of bound constraints. -/
def stepsOf : List Bound → List Step
  | [] => []
  | bound :: rest => bound.step :: stepsOf rest
termination_by structural constraints => constraints

/-- The behaviours of sub-schemas. -/
def behavioursOf : List Subschema → List Behaviour
  | [] => []
  | schema :: rest => schema.behaviour :: behavioursOf rest
termination_by structural schemas => schemas

/-- The behaviour of a sub-schema that may be missing. -/
def behaviourOf? : Option Subschema → Option Behaviour
  | none => none
  | some schema => some schema.behaviour
termination_by structural schema => schema

/-- The behaviours of sub-schemas under names. -/
def entryBehavioursOf : List (String × Subschema) → List (String × Behaviour)
  | [] => []
  | (name, schema) :: rest => (name, schema.behaviour) :: entryBehavioursOf rest
termination_by structural schemas => schemas

/-- The behaviours of sub-schemas under patterns. -/
def patternBehavioursOf : List (Pattern × Subschema) → List (Pattern × Behaviour)
  | [] => []
  | (pattern, schema) :: rest => (pattern, schema.behaviour) :: patternBehavioursOf rest
termination_by structural schemas => schemas

/-- The demands of dependencies. -/
def demandsOf : List (String × Dependency) → List (String × Behaviour.Demand)
  | [] => []
  | (name, dependency) :: rest => (name, dependency.demand) :: demandsOf rest
termination_by structural dependencies => dependencies

end

theorem stepsOf_eq_map (constraints : List Bound) :
    stepsOf constraints = constraints.map Bound.step := by
  induction constraints with
  | nil => rfl
  | cons bound rest ih => simp [stepsOf, ih]

theorem behavioursOf_eq_map (schemas : List Subschema) :
    behavioursOf schemas = schemas.map Subschema.behaviour := by
  induction schemas with
  | nil => rfl
  | cons schema rest ih => simp [behavioursOf, ih]

theorem behaviourOf?_eq_map (schema : Option Subschema) :
    behaviourOf? schema = schema.map Subschema.behaviour := by
  cases schema <;> rfl

theorem entryBehavioursOf_eq_map (schemas : List (String × Subschema)) :
    entryBehavioursOf schemas = schemas.map fun entry => (entry.1, entry.2.behaviour) := by
  induction schemas with
  | nil => rfl
  | cons entry rest ih => simp [entryBehavioursOf, ih]

theorem patternBehavioursOf_eq_map (schemas : List (Pattern × Subschema)) :
    patternBehavioursOf schemas = schemas.map fun entry => (entry.1, entry.2.behaviour) := by
  induction schemas with
  | nil => rfl
  | cons entry rest ih => simp [patternBehavioursOf, ih]

theorem demandsOf_eq_map (dependencies : List (String × Dependency)) :
    demandsOf dependencies = dependencies.map fun entry => (entry.1, entry.2.demand) := by
  induction dependencies with
  | nil => rfl
  | cons entry rest ih => simp [demandsOf, ih]

namespace Bound

def name : Bound → String
  | .mk name _ _ _ => name

def terminal : Bound → Bool
  | .mk _ terminal _ _ => terminal

def restriction : Bound → Option Guard
  | .mk _ _ restriction _ => restriction

def rule : Bound → Rule
  | .mk _ _ _ rule => rule

end Bound

namespace Registry

/-- The value of the first key of a document that denotes the same constraint as a name. A name
that denotes none stands for itself. -/
def find? (registry : Registry) (document : List (String × Value)) (name : String) :
    Option Value :=
  match registry.resolve name with
  | some target =>
    (document.find? fun entry => registry.resolve entry.1 == some target).map Prod.snd
  | none => Table.lookup document name

end Registry

namespace Schema

def header : Schema → Header
  | .mk header _ => header

def constraints : Schema → List Bound
  | .mk _ constraints => constraints

def name (schema : Schema) : String := schema.header.name

def named (schema : Schema) : Bool := schema.header.named

def document (schema : Schema) : Value := schema.header.document

def strict (schema : Schema) : Bool := schema.header.strict

def declared (schema : Schema) : Option KindSet := schema.header.declared

def revision (schema : Schema) : Nat := schema.header.revision

def references (schema : Schema) : List String := schema.header.references

/-- The name that was given to a schema, if one was. -/
def givenName (schema : Schema) : Option String :=
  if schema.named then some schema.name else none

/-- The constraints with rules, in the order in which they run. -/
def constraintNames (schema : Schema) : List String := schema.constraints.map Bound.name

/-- The value of a constraint in the document, under any spelling of its name. -/
def get (schema : Schema) (key : String) : Option Value :=
  match schema.document with
  | .object entries => schema.header.registry.find? entries key
  | _ => none

/-- What the document's constraints say, in the order of its keys. -/
def describe (schema : Schema) : List (String × String) :=
  match schema.document with
  | .object entries =>
    entries.filterMap fun entry =>
      (schema.header.registry.get entry.1).map fun definition =>
        (definition.name, definition.describe entry.2)
  | _ => []

/-- The outcomes of all constraints that validation reaches. -/
def outcomes (schema : Schema) (subject : Value) (isPartial : Bool) :
    List (String × Option Failure) :=
  Step.outcomes schema.name isPartial subject (stepsOf schema.constraints)

/-- Whether an instance satisfies a schema. -/
def isValid (schema : Schema) (subject : Value) (isPartial : Bool) : Bool :=
  schema.behaviour.accepts isPartial subject

/-- Threads an instance through every constraint and stops at the first failure. -/
def convert (schema : Schema) (subject : Value) (isPartial : Bool) : Except Failure Value :=
  schema.behaviour.convert isPartial subject

theorem behaviour_check (schema : Schema) (subject : Value) (isPartial : Bool) :
    schema.behaviour.check isPartial subject =
      Step.fold schema.name (schema.outcomes subject isPartial) := by
  cases schema
  rfl

end Schema

end Conformance
