import Conformance.Compilation.Context
/-!
The rule that a constraint's value stands for, by the meaning of the constraint. Values without a
rule only document the schema, or are read by a sibling.
-/

namespace Conformance

namespace Context

/-- Whether the boolean form of an exclusive bound is set, which makes its sibling exclusive. -/
def isExclusive (context : Context) (name : String) : Bool :=
  match context.sibling? name with
  | some (.bool value) => value
  | _ => false

/-- The checks that look at the value alone. -/
def check (context : Context) (meaning : Meaning) (value : Value) :
    Except CompileError (Option Check) :=
  match meaning with
  | .ofKinds => (context.kinds value).map fun kinds => some (.ofKinds kinds)
  | .among =>
    match value with
    | .array choices => .ok (some (.among choices))
    | _ => .error (context.malformed .notValueList)
  | .constant => .ok (some (.constant value))
  | .multipleOf =>
    match context.number value with
    | .error error => .error error
    | .ok divisor =>
      if divisor.isPositive then .ok (some (.multipleOf divisor))
      else .error (context.malformed .notPositive)
  | .maximum =>
    (context.number value).map fun bound =>
      some (if context.isExclusive "exclusive_maximum" then .below bound else .maximum bound)
  | .minimum =>
    (context.number value).map fun bound =>
      some (if context.isExclusive "exclusive_minimum" then .above bound else .minimum bound)
  | .exclusiveMaximum =>
    match value with
    | .bool _ => .ok none
    | value => (context.number value).map fun bound => some (.below bound)
  | .exclusiveMinimum =>
    match value with
    | .bool _ => .ok none
    | value => (context.number value).map fun bound => some (.above bound)
  | .maxLength => (context.count value).map fun limit => some (.maxLength limit)
  | .minLength => (context.count value).map fun limit => some (.minLength limit)
  | .pattern =>
    match value with
    | .string source =>
      match Pattern.ofSource source with
      | .ok shape => .ok (some (.pattern shape))
      | .error error => .error (context.malformed (.badPattern error))
    | _ => .error (context.malformed .notPattern)
  | .format =>
    match value with
    | .string name =>
      if context.settings.config.ignoresFormat name then .ok none
      else match context.settings.formats.lookup name with
        | some grammar => .ok (some (.format name grammar))
        | none =>
          if context.strict then .error (.unknownFormat (Format.normalName name)) else .ok none
    | _ => .error (context.malformed .notFormatName)
  | .maxSize => (context.count value).map fun limit => some (.maxSize limit)
  | .minSize => (context.count value).map fun limit => some (.minSize limit)
  | .uniqueItems =>
    match value with
    | .bool true => .ok (some .uniqueItems)
    | .bool false => .ok none
    | _ => .error (context.malformed .notBoolean)
  | .required => (context.names value).map fun names => some (.required (names.mergeSort (· ≤ ·)))
  | .even =>
    match value with
    | .bool true => .ok (some .even)
    | _ => .ok none
  | .probe =>
    match value with
    | .string name =>
      .ok (some (.probe context.constraint context.strict context.declared name
        (context.sibling? name)))
    | _ => .error (context.malformed .notSiblingName)
  | _ => .ok none

/-- The items of an array: one sub-schema for all, or a list of them by position and one for the
items beyond. -/
def items (context : Context) (value : Value) : Binding Rule :=
  match value with
  | .array list => do
    let positional ← context.subschemasOfItems list
    let rest ← context.siblingSubschema? "additional_items"
    pure (.items positional (rest.getD .accept))
  | value => do
    let rest ← context.subschema value
    pure (.items [] rest)

def patternEntries (context : Context) (value : Value) : Binding Rule := do
  let schemas ← context.subschemaTable value
  let patterns ← context.entryPatterns (Table.names schemas)
  pure (.patternEntries (patterns.zip (schemas.map Prod.snd)))

def additionalEntries (context : Context) (value : Value) : Binding Rule := do
  let entry ← context.subschema value
  let patterns ← context.entryPatterns (context.siblingNames "pattern_entries")
  pure (.additionalEntries (context.siblingNames "entries") patterns entry)

/-- What the presence of an entry asks for: other entries, or a sub-schema that is no name. -/
def dependency (context : Context) (key : String) (value : Value) : Binding Dependency :=
  match value with
  | .array items => do
    let names ← context.namesOfItems items
    pure (.peers names)
  | .object _ | .bool _ => do
    let schema ← context.subschema value
    pure (.whole schema)
  | other => .failed (context.malformed (.notDependency key other.kind))

def dependenciesOfEntries (context : Context) :
    List (String × Value) → Binding (List (String × Dependency))
  | [] => pure []
  | (key, value) :: entries => do
    let first ← context.dependency key value
    let others ← context.dependenciesOfEntries entries
    pure ((key, first) :: others)

def dependencies (context : Context) (value : Value) : Binding Rule :=
  match value with
  | .object entries => do
    let demands ← context.dependenciesOfEntries entries
    pure (.dependencies demands)
  | _ => .failed (context.malformed .notDependencyTable)

/-- A condition without branches asks for nothing. -/
def conditional (context : Context) (value : Value) : Binding (Option Rule) := do
  let condition ← context.subschema value
  let positive ← context.siblingSubschema? "then"
  let negative ← context.siblingSubschema? "else"
  pure (if positive.isNone && negative.isNone then none
    else some (.conditional condition positive negative))

/-- The rule that a constraint's value stands for, if it has one. -/
def rule (context : Context) (meaning : Meaning) (value : Value) : Binding (Option Rule) :=
  match meaning with
  | .remark => pure none
  | .items => some <$> context.items value
  | .contains => do
    let item ← context.subschema value
    pure (some (.contains item))
  | .entries => do
    let listed ← context.subschemaTable value
    pure (some (.entries listed))
  | .patternEntries => some <$> context.patternEntries value
  | .additionalEntries => some <$> context.additionalEntries value
  | .dependencies => some <$> context.dependencies value
  | .entryNames => do
    let name ← context.subschema value
    pure (some (.entryNames name))
  | .allOf => do
    let branches ← context.subschemas value
    pure (some (.allOf branches))
  | .anyOf => do
    let branches ← context.subschemas value
    pure (some (.anyOf branches))
  | .oneOf => do
    let branches ← context.subschemas value
    pure (some (.oneOf branches))
  | .negation => do
    let excluded ← context.subschema value
    pure (some (.negation excluded))
  | .conditional => context.conditional value
  | .apply => do
    let whole ← context.subschema value
    pure (some (.apply whole))
  | meaning => do
    let check ← context.check meaning value
    pure (check.map .check)

end Context

end Conformance
