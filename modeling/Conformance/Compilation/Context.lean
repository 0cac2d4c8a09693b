import Conformance.Compilation.Binding
import Conformance.Settings
/-!
What the constraints of one document are compiled in, and how the values are read that constraints
share: kinds, numbers, counts, names, and the sub-schemas, which are compiled in turn.
-/

namespace Conformance

/-- What the constraints of a document are compiled in. -/
structure Context where
  settings : Settings
  entries : List (String × Value)
  /-- The constraint at hand. -/
  constraint : String
  strict : Bool
  /-- The kinds that the document's type admits, once they are known. -/
  declared : Option KindSet

namespace Context

def malformed (context : Context) (flaw : Flaw) : CompileError :=
  .malformedValue context.constraint flaw

/-- The value of a sibling constraint, by its name in the base registry. -/
def sibling? (context : Context) (name : String) : Option Value :=
  context.settings.constraints.find? context.entries name

/-- The kinds that a type name denotes. -/
def kindsOfName (context : Context) (name : String) : Except CompileError KindSet :=
  match Table.lookup context.settings.types name with
  | some kinds => .ok kinds
  | none => .error (.unknownType name)

/-- The kinds that the items of a list of type names denote together. -/
def kindsOfItems (context : Context) (kinds : KindSet) : List Value → Except CompileError KindSet
  | [] => .ok kinds
  | .string name :: items =>
    match context.kindsOfName name with
    | .ok more => context.kindsOfItems (kinds.union more) items
    | .error error => .error error
  | other :: _ => .error (context.malformed (.notTypeName other))

/-- The kinds that a type admits: a type name, or a list of them that is not empty. -/
def kinds (context : Context) (value : Value) : Except CompileError KindSet :=
  match value with
  | .string name => context.kindsOfName name
  | .array (first :: items) => context.kindsOfItems .none (first :: items)
  | other => .error (context.malformed (.notTypeName other))

/-- A number, or a text that spells one. -/
def number (context : Context) (value : Value) : Except CompileError Number :=
  match value with
  | .number amount => .ok amount
  | .string text =>
    match Number.ofText (Text.trim text) with
    | .ok amount => .ok amount
    | .error _ => .error (context.malformed (.notNumeral text))
  | other => .error (context.malformed (.notNumber other.kind))

/-- An integer that is not negative. -/
def count (context : Context) (value : Value) : Except CompileError Nat :=
  match value with
  | .number amount =>
    match amount.natural? with
    | some count => .ok count
    | none => .error (context.malformed (.notNatural amount))
  | other => .error (context.malformed (.notCount other.kind))

/-- The names in the items of a list. -/
def namesOfItems (context : Context) : List Value → Except CompileError (List String)
  | [] => .ok []
  | .string name :: items => (context.namesOfItems items).map (name :: ·)
  | other :: _ => .error (context.malformed (.notKeyName other))

/-- A list of names. -/
def names (context : Context) (value : Value) : Except CompileError (List String) :=
  match value with
  | .array items => context.namesOfItems items
  | other => .error (context.malformed (.notNameList other.kind))

/-- What stands at the position of a sub-schema: a truth value, a document or a name. -/
def subschema (context : Context) (value : Value) : Binding Subschema :=
  match value with
  | .bool true => .done .accept
  | .bool false => .done .reject
  | .string name => .named name fun schema => .done (.schema schema)
  | .object entries => .inner (.object entries) fun schema => .done (.schema schema)
  | other => .failed (context.malformed (.notSchema other.kind))

/-- The sub-schemas at the items of a list. -/
def subschemasOfItems (context : Context) : List Value → Binding (List Subschema)
  | [] => pure []
  | item :: items => do
    let schema ← context.subschema item
    let schemas ← context.subschemasOfItems items
    pure (schema :: schemas)

/-- A list of sub-schemas that is not empty. -/
def subschemas (context : Context) (value : Value) : Binding (List Subschema) :=
  match value with
  | .array (first :: items) => context.subschemasOfItems (first :: items)
  | _ => .failed (context.malformed .notSchemaList)

/-- The sub-schemas at the entries of an object. -/
def subschemasOfEntries (context : Context) :
    List (String × Value) → Binding (List (String × Subschema))
  | [] => pure []
  | (name, value) :: entries => do
    let schema ← context.subschema value
    let schemas ← context.subschemasOfEntries entries
    pure ((name, schema) :: schemas)

/-- A table of sub-schemas. -/
def subschemaTable (context : Context) (value : Value) : Binding (List (String × Subschema)) :=
  match value with
  | .object entries => context.subschemasOfEntries entries
  | _ => .failed (context.malformed .notSchemaTable)

/-- The sub-schema of a sibling constraint, if the document has it. -/
def siblingSubschema? (context : Context) (name : String) : Binding (Option Subschema) :=
  match context.sibling? name with
  | some value => do
    let schema ← context.subschema value
    pure (some schema)
  | none => pure none

/-- The pattern in the name of an entry. -/
def entryPattern (context : Context) (source : String) : Except CompileError Pattern :=
  match Pattern.ofSource source with
  | .ok pattern => .ok pattern
  | .error error => .error (context.malformed (.badEntryPattern source error))

/-- The patterns in the names of entries. -/
def entryPatterns (context : Context) : List String → Except CompileError (List Pattern)
  | [] => .ok []
  | source :: sources =>
    match context.entryPattern source with
    | .ok pattern => (context.entryPatterns sources).map (pattern :: ·)
    | .error error => .error error

/-- The names of the entries of a sibling constraint. -/
def siblingNames (context : Context) (name : String) : List String :=
  match context.sibling? name with
  | some (.object entries) => Table.names entries
  | _ => []

end Context

end Conformance
